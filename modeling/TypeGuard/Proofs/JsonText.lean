import TypeGuard.Json.Reader
import TypeGuard.Json.Writer

/-! Written text reads back. A quoted text is read up to its own closing quote, whatever stands in it and
whatever follows, and so is a list of quoted texts up to its closing bracket. -/

namespace TypeGuard.Proofs
open Json

/-- The reader goes on behind a character and puts that in front of what it finds. -/
private def after (c : Char) (rest : List Char) : Option (List Char × List Char) :=
  (readText .keep rest).map fun (chars, rest) => (c :: chars, rest)

private theorem readText_visible {c : Char} (quote : c ≠ '"') (backslash : c ≠ '\\') (visible : ¬c.toNat < 0x20)
    (rest : List Char) : readText .keep (c :: rest) = after c rest := by
  rw [readText, if_neg visible, after]
  · cases readText .keep rest <;> rfl
  all_goals simp [quote, backslash]

private theorem readText_short {short c : Char} (escape : shortEscape? short = some c) (rest : List Char) :
    readText .keep ('\\' :: short :: rest) = after c rest := by
  rw [readText, escape, after]
  · cases readText .keep rest <;> rfl
  · rintro _ _ _ _ _ rfl
    cases escape

private theorem unit_control : ∀ code < 0x20,
    unit? '0' '0' (Nat.digitChar (code / 16)) (Nat.digitChar (code % 16)) = some code := by
  decide

private theorem readText_control {c : Char} (control : c.toNat < 0x20) (rest : List Char) :
    readText .keep (['\\', 'u', '0', '0'] ++ controlDigits c.toNat ++ rest) = after c rest := by
  have low : isLowHalf c.toNat = false := decide_eq_false fun half => by omega
  have high : isHighHalf c.toNat = false := decide_eq_false fun half => by omega
  simp only [controlDigits, List.cons_append, List.nil_append, readText, unit_control _ control, Option.bind_eq_bind,
    Option.bind_some, low, high, Char.ofNat_toNat, after]
  cases readText .keep rest <;> rfl

private theorem readText_escapeChar (c : Char) (rest : List Char) :
    readText .keep (escapeChar c ++ rest) = after c rest := by
  unfold escapeChar
  split
  case h_8 quote backslash _ _ _ _ _ =>
    split
    next control => exact readText_control control rest
    next visible => exact readText_visible quote backslash visible rest
  all_goals exact readText_short rfl rest

theorem readText_escaped (chars rest : List Char) :
    readText .keep (chars.flatMap escapeChar ++ '"' :: rest) = some (chars, rest) := by
  induction chars with
  | nil => rfl
  | cons c chars ih => rw [List.flatMap_cons, List.append_assoc, readText_escapeChar, after, ih, Option.map_some]

theorem readValue_text (budget : Nat) (text : String) (rest : List Char) :
    readValue .keep budget (writeText text rest) = some (.string text, rest) := by
  have scalar : readScalar .keep (writeText text rest) = some (.string text, rest) := by
    rw [writeText, List.cons_append, readScalar, readText_escaped]
    exact congrArg (fun text => some (Json.string text, rest)) String.ofList_toList
  cases budget with
  | zero => exact scalar
  | succ budget => exact scalar

private theorem readItems_texts (budget : Nat) (first : String) (others : List String) (rest : List Char) {count : Nat}
    (enough : others.length < count) :
    readItems (readValue .keep budget) count (writeItems ((first :: others).map .string) (']' :: rest)) =
      some ((first :: others).map .string, rest) := by
  induction others generalizing first count with
  | nil =>
    obtain ⟨count, rfl⟩ := Nat.exists_eq_succ_of_ne_zero (Nat.ne_of_gt enough)
    change readItems _ (count + 1) (writeText first (']' :: rest)) = _
    have unspaced : skipSpace (writeText first (']' :: rest)) = writeText first (']' :: rest) := rfl
    rw [readItems, unspaced, readValue_text]
    rfl
  | cons second others ih =>
    obtain ⟨count, rfl⟩ := Nat.exists_eq_succ_of_ne_zero (Nat.ne_of_gt (Nat.zero_lt_of_lt enough))
    have read := ih second (Nat.lt_of_succ_lt_succ enough)
    generalize written : writeItems ((second :: others).map .string) (']' :: rest) = tail at read
    have start : writeItems ((first :: second :: others).map .string) (']' :: rest) = writeText first (',' :: tail) := by
      rw [← written]
      rfl
    have unspaced : skipSpace (writeText first (',' :: tail)) = writeText first (',' :: tail) := rfl
    rw [start, readItems, unspaced, readValue_text]
    change (readItems _ count tail).bind _ = _
    rw [read]
    rfl

private theorem length_writeItems (texts : List String) (rest : List Char) :
    texts.length ≤ (writeItems (texts.map .string) rest).length := by
  induction texts with
  | nil => exact Nat.zero_le _
  | cons first others ih =>
    cases others with
    | nil => exact Nat.succ_le_succ (Nat.zero_le _)
    | cons second others =>
      generalize written : writeItems ((second :: others).map .string) rest = tail at ih
      have start : writeItems ((first :: second :: others).map .string) rest = writeText first (',' :: tail) := by
        rw [← written]
        rfl
      rw [start]
      simp only [writeText, List.length_cons, List.length_append] at ih ⊢
      omega

theorem readValue_texts (budget : Nat) (texts : List String) (rest : List Char) :
    readValue .keep (budget + 1) (write (.array (texts.map .string)) rest) = some (.array (texts.map .string), rest) := by
  have read : readArray (readValue .keep budget) (writeItems (texts.map .string) (']' :: rest)) =
      some (texts.map .string, rest) := by
    cases texts with
    | nil => rfl
    | cons first others =>
      have items := readItems_texts budget first others rest (length_writeItems (first :: others) (']' :: rest))
      obtain ⟨tail, start⟩ : ∃ tail, writeItems ((first :: others).map .string) (']' :: rest) = '"' :: tail := by
        cases others <;> exact ⟨_, rfl⟩
      rw [start] at items ⊢
      exact items
  rw [write, readValue, read]
  rfl

theorem parse?_text (text : String) : parse? (Json.text (.string text)) = some (.string text) := by
  have unspaced : skipSpace (writeText text []) = writeText text [] := rfl
  rw [parse?, complete, Json.text, String.toList_ofList, write, unspaced, readValue_text]
  rfl

theorem parse?_texts (texts : List String) :
    parse? (Json.text (.array (texts.map .string))) = some (.array (texts.map .string)) := by
  have unspaced : skipSpace (write (.array (texts.map .string)) []) = write (.array (texts.map .string)) [] := rfl
  rw [parse?, complete, Json.text, String.toList_ofList, unspaced, nestingLimit, readValue_texts]
  rfl

end TypeGuard.Proofs
