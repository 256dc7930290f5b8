import PgSkyline.Lib.Covering
import PgSkyline.Lib.Comparison
import PgSkyline.Lib.Elimination
import PgSkyline.Lib.Resumable
import PgSkyline.Lib.HandleTable
import PgSkyline.Storage.Fifo
import PgSkyline.Storage.Result
import PgSkyline.Window.Result
import PgSkyline.Dominance.Reference
import PgSkyline.Dominance.Verdict
import PgSkyline.Executor.Node
import PgSkyline.Passes.Start
import PgSkyline.Passes.Admission
import PgSkyline.NestedLoop.Result
import PgSkyline.NestedLoop.Material
import PgSkyline.OneDim.Result
import PgSkyline.Presort.Result
import PgSkyline.Termination
import PgSkyline.ElimFilter.Rescan
import PgSkyline.Lifecycle.Rescan
import PgSkyline.Lifecycle.Handles
import PgSkyline.Parser.Result
import PgSkyline.Parser.Meaning
import PgSkyline.Planner.Result
import PgSkyline.Planner.BestPath
import PgSkyline.InputOrder.Result
import PgSkyline.Nodes.Result
import PgSkyline.Nodes.Copy
import PgSkyline.Deparse.Result
import PgSkyline.Ranked.Result
import PgSkyline.Planner.Truncation
import PgSkyline.Planner.Normalisation
import PgSkyline.Entropy.Result
import PgSkyline.QueryPlan.Result
import PgSkyline.Limit.Result
import PgSkyline.SortFilter.PassInfo
import PgSkyline.Regress.StdQuery
import PgSkyline.Statistics.Result
import PgSkyline.Nodes.Equal
import PgSkyline.QueryPlan.Restriction
import PgSkyline.Pushdown.Result
import PgSkyline.MinMaxFilter
import PgSkyline.Parser.Accepted
import PgSkyline.QueryPlan.Meaning
