import PgSkyline.Fault
import PgSkyline.Lib.Reading
import Mathlib.Data.List.TakeWhile

/-!
# Tokens of stored node trees

Translation of the token level of `nodes/outfuncs.c` and `nodes/read.c`: `_outToken`
with its protective backslashes, `pg_strtok`, `debackslash`, and the number formats.
Text is a list of characters without the terminating zero; the text that is still to
be read stands for `pg_strtok_ptr`.
-/

namespace PgSkyline

open Reading

/-- A routine of `readfuncs.c`. -/
abbrev NodeReader :=
  Reader Char Fault

/-! ## Writing -/

/-- The characters that separate tokens. -/
def isSpace (c : Char) : Bool :=
  c == ' ' || c == '\n' || c == '\t'

/-- The characters that are tokens. -/
def isBracket (c : Char) : Bool :=
  c == '(' || c == ')' || c == '{' || c == '}'

/-- A token ends in front of such a character. -/
def endsToken (c : Char) : Bool :=
  isSpace c || isBracket c

/-- These characters only need to be quoted at the start of the string. -/
def quotedAtStart : List Char → Bool
  | [] => false
  | c :: rest =>
      c == '<' || c == '\"' || c.isDigit ||
        ((c == '+' || c == '-') && rest.head?.any fun d => d.isDigit || d == '.')

/-- These characters must be backslashed anywhere in the string. -/
def escapeChar (c : Char) : List Char :=
  if endsToken c || c == '\\' then ['\\', c] else [c]

/-- `_outToken`. -/
def outToken (s : List Char) : List Char :=
  if s = [] then "<>".toList
  else (if quotedAtStart s then ['\\'] else []) ++ s.flatMap escapeChar

/-- The format `%u`. -/
def outUint (n : Nat) : List Char :=
  Nat.toDigits 10 n

/-- The format `%d`. -/
def outInt : Int → List Char
  | .ofNat n => Nat.toDigits 10 n
  | .negSucc n => '-' :: Nat.toDigits 10 (n + 1)

/-- `booltostr`. -/
def boolToStr (b : Bool) : List Char :=
  if b then "true".toList else "false".toList

/-! ## Reading -/

/-- A token and the length that `pg_strtok` reports, which is 0 for `<>`. -/
structure Token where
  text : List Char
  length : Nat
  deriving DecidableEq, Repr

def Token.ofText (text : List Char) : Token :=
  ⟨text, if text = "<>".toList then 0 else text.length⟩

/-- A token that is no bracket: the characters up to the next one that ends it. -/
def normalToken : List Char → List Char × List Char
  | [] => ([], [])
  | [c] => if endsToken c then ([], [c]) else ([c], [])
  | c :: d :: rest =>
      if endsToken c then ([], c :: d :: rest)
      else if c = '\\' then
        let (text, rest) := normalToken rest
        (c :: d :: text, rest)
      else
        let (text, rest) := normalToken (d :: rest)
        (c :: text, rest)

/-- `pg_strtok`. -/
def pgStrtok : NodeReader (Option Token) := fun input =>
  match input.dropWhile isSpace with
  | [] => .ok (none, [])
  | c :: rest =>
      if isBracket c then .ok (some (.ofText [c]), rest)
      else
        let (text, rest) := normalToken (c :: rest)
        .ok (some (.ofText text), rest)

/-- `debackslash`. -/
def debackslash : List Char → List Char
  | [] => []
  | [c] => [c]
  | c :: d :: rest =>
      if c = '\\' then d :: debackslash rest else c :: debackslash (d :: rest)

/-- `nullable_string`. -/
def nullableString (token : Token) : Option (List Char) :=
  if token.length = 0 then none else some (debackslash token.text)

/-- `strtoul` on the digits at the start; `Index` and `Oid` are natural numbers. -/
def strtoul (text : List Char) : Nat :=
  Nat.ofDigitChars 10 (text.takeWhile Char.isDigit) 0

/-- `strtol`: the number, and the text from `endptr` on. -/
def strtol : List Char → Int × List Char
  | [] => (0, [])
  | c :: rest =>
      if c = '-' then (-(strtoul rest : Int), rest.dropWhile Char.isDigit)
      else if c = '+' then (strtoul rest, rest.dropWhile Char.isDigit)
      else (strtoul (c :: rest), (c :: rest).dropWhile Char.isDigit)

/-- `atoi`. -/
def atoi (token : Token) : Int :=
  (strtol token.text).1

/-- `atoui` and `atooid`. -/
def atoui (token : Token) : Nat :=
  strtoul token.text

/-- `strtobool`. -/
def strtobool (token : Token) : Bool :=
  token.text.head? == some 't'

/-! ## What a token ends at -/

/-- The text that may stand behind a token. -/
def BehindToken (rest : List Char) : Prop :=
  ∀ c ∈ rest.head?, endsToken c = true

theorem behindToken_nil : BehindToken [] :=
  fun _ mem => by cases mem

theorem behindToken_cons {c : Char} (ends : endsToken c = true) (rest : List Char) :
    BehindToken (c :: rest) := by
  intro first mem
  cases mem
  exact ends

/-- The text is one token, wherever it ends. -/
def IsToken (text : List Char) : Prop :=
  text ≠ [] ∧ ∀ rest, BehindToken rest → normalToken (text ++ rest) = (text, rest)

theorem normalToken_of_behind {rest : List Char} (behind : BehindToken rest) :
    normalToken rest = ([], rest) := by
  match rest with
  | [] => rfl
  | [c] =>
      have ends := behind c rfl
      simp [normalToken, ends]
  | c :: d :: rest =>
      have ends := behind c rfl
      simp [normalToken, ends]

/-- A character that needs no backslash is taken as it is. -/
theorem normalToken_cons {c : Char} (plain : endsToken c = false) (noBackslash : c ≠ '\\')
    (rest : List Char) :
    normalToken (c :: rest) = (c :: (normalToken rest).1, (normalToken rest).2) := by
  cases rest with
  | nil => simp [normalToken, plain]
  | cons d rest => simp [normalToken, plain, noBackslash]

/-- A backslash protects the next character. -/
theorem normalToken_backslash (c : Char) (rest : List Char) :
    normalToken ('\\' :: c :: rest) =
      ('\\' :: c :: (normalToken rest).1, (normalToken rest).2) := by
  have plain : endsToken '\\' = false := by decide
  simp [normalToken, plain]

private theorem normalToken_escapeChar (c : Char) (rest : List Char) :
    normalToken (escapeChar c ++ rest) =
      (escapeChar c ++ (normalToken rest).1, (normalToken rest).2) := by
  unfold escapeChar
  split
  · exact normalToken_backslash c rest
  · rename_i plain
    simp only [Bool.or_eq_true, beq_iff_eq, not_or, Bool.not_eq_true] at plain
    exact normalToken_cons plain.1 plain.2 rest

private theorem normalToken_flatMap_escapeChar (s rest : List Char) :
    normalToken (s.flatMap escapeChar ++ rest) =
      (s.flatMap escapeChar ++ (normalToken rest).1, (normalToken rest).2) := by
  induction s with
  | nil => rfl
  | cons c s ih =>
      rw [List.flatMap_cons, List.append_assoc, normalToken_escapeChar, ih, List.append_assoc]

/-! ## The tokens that are written -/

/-- A text without separators, brackets and backslashes is a token. -/
theorem isToken_of_plain {text : List Char} (nonempty : text ≠ [])
    (plain : ∀ c ∈ text, endsToken c = false ∧ c ≠ '\\') : IsToken text := by
  refine ⟨nonempty, fun rest behind => ?_⟩
  clear nonempty
  induction text with
  | nil => exact normalToken_of_behind behind
  | cons c text ih =>
      rcases plain c List.mem_cons_self with ⟨noEnd, noBackslash⟩
      rw [List.cons_append, normalToken_cons noEnd noBackslash,
        ih fun d mem => plain d (List.mem_cons_of_mem c mem)]

theorem isToken_label {label : List Char} (nonempty : label ≠ [])
    (plain : label.all fun c => !endsToken c && c != '\\') : IsToken label := by
  apply isToken_of_plain nonempty
  intro c mem
  simpa using List.all_eq_true.mp plain c mem

/-- Neither the end of a token nor a backslash. -/
theorem plain_iff (c : Char) :
    (endsToken c = false ∧ c ≠ '\\') ↔ ¬ (endsToken c || c == '\\') = true := by
  simp

theorem eq_of_special {c : Char} (special : (endsToken c || c == '\\') = true) :
    c ∈ [' ', '\n', '\t', '(', ')', '{', '}', '\\'] := by
  simp only [endsToken, isSpace, isBracket, Bool.or_eq_true, beq_iff_eq] at special
  simp only [List.mem_cons, List.not_mem_nil, or_false]
  tauto

theorem plain_of_isDigit {c : Char} (digit : c.isDigit = true) :
    endsToken c = false ∧ c ≠ '\\' := by
  rw [plain_iff]
  intro special
  have noDigits : [' ', '\n', '\t', '(', ')', '{', '}', '\\'].all (fun d => !d.isDigit) := by decide
  have noDigit := List.all_eq_true.mp noDigits c (eq_of_special special)
  rw [digit] at noDigit
  contradiction

/-- A character that is quoted only at the start has no backslash of its own. -/
theorem escapeChar_of_quotedAtStart {c : Char} {s : List Char}
    (quoted : quotedAtStart (c :: s) = true) : escapeChar c = [c] := by
  unfold escapeChar
  rw [if_neg]
  intro special
  have notQuoted : ∀ d ∈ [' ', '\n', '\t', '(', ')', '{', '}', '\\'],
      quotedAtStart (d :: s) = false := by
    simp [quotedAtStart]
  rw [notQuoted c (eq_of_special special)] at quoted
  contradiction

/-- What `_outToken` writes is one token. -/
theorem isToken_outToken (s : List Char) : IsToken (outToken s) := by
  unfold outToken
  split
  · exact isToken_label (by decide) (by decide)
  · rename_i nonempty
    rcases List.exists_cons_of_ne_nil nonempty with ⟨c, s, rfl⟩
    refine ⟨?_, fun rest behind => ?_⟩
    · have escaped : escapeChar c ≠ [] := by
        unfold escapeChar
        split <;> simp
      simp [escaped]
    · have ended : ∀ t : List Char, normalToken (t.flatMap escapeChar ++ rest) =
          (t.flatMap escapeChar, rest) := by
        intro t
        rw [normalToken_flatMap_escapeChar, normalToken_of_behind behind, List.append_nil]
      split
      · rename_i quoted
        rw [List.flatMap_cons, escapeChar_of_quotedAtStart quoted]
        simp only [List.cons_append, List.nil_append, normalToken_backslash, ended]
      · rw [List.nil_append]
        exact ended (c :: s)

theorem isToken_outUint (n : Nat) : IsToken (outUint n) := by
  apply isToken_of_plain Nat.toDigits_ne_nil
  intro c mem
  exact plain_of_isDigit (Nat.isDigit_of_mem_toDigits (by decide) (by decide) mem)

theorem isToken_outInt (n : Int) : IsToken (outInt n) := by
  cases n with
  | ofNat n => exact isToken_outUint n
  | negSucc n =>
      apply isToken_of_plain (List.cons_ne_nil _ _)
      intro c mem
      rcases List.mem_cons.mp mem with rfl | digit
      · decide
      · exact plain_of_isDigit (Nat.isDigit_of_mem_toDigits (by decide) (by decide) digit)

theorem isToken_boolToStr (b : Bool) : IsToken (boolToStr b) := by
  cases b
  · exact isToken_label (by decide) (by decide)
  · exact isToken_label (by decide) (by decide)

/-! ## Numbers and strings come back -/

theorem strtoul_outUint (n : Nat) : strtoul (outUint n) = n := by
  have digits : (outUint n).takeWhile Char.isDigit = outUint n := by
    rw [List.takeWhile_eq_self_iff]
    intro c mem
    exact Nat.isDigit_of_mem_toDigits (by decide) (by decide) mem
  rw [strtoul, digits, outUint, Nat.ofDigitChars_ten_toDigits]

theorem atoui_outUint (n : Nat) : atoui (.ofText (outUint n)) = n :=
  strtoul_outUint n

theorem atoi_outInt (n : Int) : atoi (.ofText (outInt n)) = n := by
  cases n with
  | ofNat n =>
      have number := strtoul_outUint n
      rw [outUint] at number
      simp only [atoi, Token.ofText, outInt]
      cases digits : Nat.toDigits 10 n with
      | nil => exact absurd digits Nat.toDigits_ne_nil
      | cons c rest =>
          have digit : c.isDigit = true :=
            Nat.isDigit_of_mem_toDigits (by decide) (by decide) (digits ▸ List.mem_cons_self)
          have notMinus : c ≠ '-' := by
            rintro rfl
            contradiction
          have notPlus : c ≠ '+' := by
            rintro rfl
            contradiction
          rw [digits] at number
          simp only [strtol, notMinus, notPlus, if_false, number]
          rfl
  | negSucc n =>
      have number := strtoul_outUint (n + 1)
      rw [outUint] at number
      simp only [atoi, Token.ofText, outInt, strtol, if_true, number]
      rfl

theorem strtobool_boolToStr (b : Bool) : strtobool (.ofText (boolToStr b)) = b := by
  cases b <;> decide

/-! ## `pg_strtok` -/

theorem IsToken.exists_cons {text : List Char} (isToken : IsToken text) :
    ∃ c rest, text = c :: rest ∧ isSpace c = false ∧ isBracket c = false := by
  rcases isToken with ⟨nonempty, ends⟩
  rcases List.exists_cons_of_ne_nil nonempty with ⟨c, rest, rfl⟩
  have alone := ends [] behindToken_nil
  have plain : endsToken c = false := by
    by_contra special
    rw [Bool.not_eq_false] at special
    have stops := normalToken_of_behind (behindToken_cons special rest)
    rw [List.append_nil, stops] at alone
    cases alone
  unfold endsToken at plain
  rw [Bool.or_eq_false_iff] at plain
  exact ⟨c, rest, rfl, plain.1, plain.2⟩

theorem reads_pgStrtok {text : List Char} (isToken : IsToken text) :
    Reads BehindToken pgStrtok text (some (.ofText text)) := by
  intro rest behind
  rcases isToken.exists_cons with ⟨c, later, rfl, noSpace, noBracket⟩
  have found := isToken.2 rest behind
  show pgStrtok (c :: (later ++ rest)) = _
  rw [List.cons_append] at found
  simp only [pgStrtok, List.dropWhile_cons, noSpace, noBracket, Bool.false_eq_true, if_false, found]

/-- `pg_strtok` skips spaces. -/
theorem reads_pgStrtok_space {text : List Char} {mayFollow : List Char → Prop}
    {token : Option Token} (reads : Reads mayFollow pgStrtok text token) :
    Reads mayFollow pgStrtok (' ' :: text) token :=
  fun rest behind => reads rest behind

theorem reads_pgStrtok_bracket {c : Char} (bracket : isBracket c = true) :
    Reads (fun _ => True) pgStrtok [c] (some (.ofText [c])) := by
  intro rest _
  have noSpace : isSpace c = false := by
    simp only [isBracket, Bool.or_eq_true, beq_iff_eq] at bracket
    rcases bracket with ((rfl | rfl) | rfl) | rfl <;> decide
  show pgStrtok (c :: rest) = _
  simp only [pgStrtok, List.dropWhile_cons, noSpace, bracket, Bool.false_eq_true, if_false, if_true]

end PgSkyline
