import GuestSeat.Json.Literal

/-!
The tokens of JSON text. A string token carries the text it stands for, escapes resolved, and a number
token its value; an escape of half a surrogate pair stands for no character and a literal out of range
for no number, so such a token carries nothing. A raw control character inside a string is no token.
The reader is total: every token takes at least one character, which `token_shortens` states.
-/

namespace GuestSeat.Json

open Text

inductive Token
  | openList
  | closeList
  | openRecord
  | closeRecord
  | comma
  | colon
  | null
  | bool (value : Bool)
  | num (value : Option Number)
  | str (text : Option String)
deriving DecidableEq

def isSpace (c : Char) : Bool := c == ' ' || c == '\t' || c == '\n' || c == '\r'

/-- Four hexadecimal digits, and what follows them. -/
def unit? : List Char → Option (Nat × List Char)
  | a :: b :: c :: d :: rest => (ofDigits? 16 [a, b, c, d]).map (·, rest)
  | _ => none

/-- The second half of a surrogate pair, after the unit `high`. -/
def lowSurrogate? (high : Nat) : List Char → Option (Char × List Char)
  | '\\' :: 'u' :: rest =>
    match unit? rest with
    | some (low, after) =>
      if 0xdc00 ≤ low ∧ low ≤ 0xdfff then
        some (Char.ofNat (0x10000 + (high - 0xd800) * 0x400 + (low - 0xdc00)), after)
      else none
    | none => none
  | _ => none

/-- The character of an escape whose unit digits begin the text. A unit that is half a pair and lacks
its other half stands for none. -/
def unitEscape? (cs : List Char) : Option (Option Char × List Char) :=
  match unit? cs with
  | none => none
  | some (unit, rest) =>
    if 0xd800 ≤ unit ∧ unit ≤ 0xdbff then
      match lowSurrogate? unit rest with
      | some (c, after) => some (some c, after)
      | none => some (none, rest)
    else if 0xdc00 ≤ unit ∧ unit ≤ 0xdfff then some (none, rest)
    else some (some (Char.ofNat unit), rest)

/-- The character of an escape, read after its backslash, and what follows. -/
def escape? : List Char → Option (Option Char × List Char)
  | '"' :: rest => some (some '"', rest)
  | '\\' :: rest => some (some '\\', rest)
  | '/' :: rest => some (some '/', rest)
  | 'b' :: rest => some (some '\x08', rest)
  | 'f' :: rest => some (some '\x0c', rest)
  | 'n' :: rest => some (some '\n', rest)
  | 'r' :: rest => some (some '\r', rest)
  | 't' :: rest => some (some '\t', rest)
  | 'u' :: rest => unitEscape? rest
  | _ => none

theorem unit_shortens {cs rest : List Char} {n : Nat} (h : unit? cs = some (n, rest)) :
    rest.length < cs.length := by
  unfold unit? at h
  split at h
  · obtain ⟨_, _, hr⟩ := Option.map_eq_some_iff.1 h
    rw [← (Prod.mk.inj hr).2]
    simp only [List.length_cons]
    omega
  · cases h

theorem lowSurrogate_shortens {high : Nat} {cs rest : List Char} {c : Char}
    (h : lowSurrogate? high cs = some (c, rest)) : rest.length < cs.length := by
  unfold lowSurrogate? at h
  split at h
  · split at h
    · next hu =>
      split at h
      · rw [← (Prod.mk.inj (Option.some.inj h)).2]
        have := unit_shortens hu
        simp only [List.length_cons]
        omega
      · cases h
    · cases h
  · cases h

theorem unitEscape_shortens {cs rest : List Char} {c : Option Char}
    (h : unitEscape? cs = some (c, rest)) : rest.length < cs.length := by
  unfold unitEscape? at h
  split at h
  · cases h
  · next hu =>
    have short := unit_shortens hu
    split at h
    · split at h
      · next hl =>
        rw [← (Prod.mk.inj (Option.some.inj h)).2]
        exact Nat.lt_trans (lowSurrogate_shortens hl) short
      · rw [← (Prod.mk.inj (Option.some.inj h)).2]
        exact short
    · split at h
      all_goals
        rw [← (Prod.mk.inj (Option.some.inj h)).2]
        exact short

theorem escape_shortens {cs rest : List Char} {c : Option Char} (h : escape? cs = some (c, rest)) :
    rest.length < cs.length := by
  unfold escape? at h
  split at h
  case h_9 =>
    have := unitEscape_shortens h
    simp only [List.length_cons]
    omega
  case h_10 => cases h
  all_goals
    rw [← (Prod.mk.inj (Option.some.inj h)).2]
    simp

/-- The characters up to the closing quote, appended in reverse to `done`, and what follows it. There
are none if an escape on the way stands for no character. -/
def quoted? (done : Option (List Char)) (cs : List Char) :
    Option (Option (List Char) × List Char) :=
  match cs with
  | [] => none
  | '"' :: rest => some (done.map List.reverse, rest)
  | '\\' :: rest =>
    match _h : escape? rest with
    | none => none
    | some (c, after) => quoted? (done.bind fun cs => c.map (· :: cs)) after
  | c :: rest => if c.toNat < 0x20 then none else quoted? (done.map (c :: ·)) rest
termination_by cs.length
decreasing_by
  · have := escape_shortens ‹escape? rest = _›
    simp only [List.length_cons]
    omega
  · simp

theorem quoted_shortens {done text : Option (List Char)} {cs rest : List Char}
    (h : quoted? done cs = some (text, rest)) : rest.length < cs.length := by
  fun_induction quoted? done cs with
  | case1 => cases h
  | case2 =>
    rw [← (Prod.mk.inj (Option.some.inj h)).2]
    simp
  | case3 => cases h
  | case4 _ _ _ _ he ih =>
    have := ih h
    have := escape_shortens he
    simp only [List.length_cons]
    omega
  | case5 => cases h
  | case6 _ _ _ _ _ _ ih =>
    have := ih h
    simp only [List.length_cons]
    omega

/-- The token at the start of a text, and what follows it. -/
def token? : List Char → Option (Token × List Char)
  | '[' :: rest => some (.openList, rest)
  | ']' :: rest => some (.closeList, rest)
  | '\x7b' :: rest => some (.openRecord, rest)
  | '\x7d' :: rest => some (.closeRecord, rest)
  | ',' :: rest => some (.comma, rest)
  | ':' :: rest => some (.colon, rest)
  | '"' :: rest =>
    (quoted? (some []) rest).map fun (text, after) => (.str (text.map String.ofList), after)
  | 'n' :: 'u' :: 'l' :: 'l' :: rest => some (.null, rest)
  | 't' :: 'r' :: 'u' :: 'e' :: rest => some (.bool true, rest)
  | 'f' :: 'a' :: 'l' :: 's' :: 'e' :: rest => some (.bool false, rest)
  | c :: rest =>
    if isNumeric c then
      (Literal.ofChars? (c :: rest.takeWhile isNumeric)).map fun l =>
        (.num l.number?, rest.dropWhile isNumeric)
    else none
  | [] => none

theorem length_dropWhile_le {p : Char → Bool} (cs : List Char) :
    (cs.dropWhile p).length ≤ cs.length :=
  (List.dropWhile_sublist p).length_le

theorem token_shortens {cs rest : List Char} {t : Token} (h : token? cs = some (t, rest)) :
    rest.length < cs.length := by
  unfold token? at h
  split at h
  case h_7 =>
    obtain ⟨⟨text, after⟩, hq, h⟩ := Option.map_eq_some_iff.1 h
    cases h
    have := quoted_shortens hq
    simp only [List.length_cons]
    omega
  case h_11 c tail _ _ _ _ _ _ _ _ _ _ =>
    split at h
    · obtain ⟨_, _, h⟩ := Option.map_eq_some_iff.1 h
      cases h
      have := length_dropWhile_le (p := isNumeric) tail
      simp only [List.length_cons]
      omega
    · cases h
  case h_12 => cases h
  all_goals
    cases h
    simp only [List.length_cons]
    omega

end GuestSeat.Json
