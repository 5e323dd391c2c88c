import FieldTemplate.Command.Report

/-!
# What arrives on a stream

A stream takes the control sequences out of a text and lets everything else through:
`onStream_cons` goes through a text, `onStream_append_of_plain` lets pass what holds no escape
character.
-/

namespace FieldTemplate.Command

set_option autoImplicit false

theorem length_lt_of_afterSequence? {s after : Text} (found : afterSequence? s = some after) :
    after.length < s.length := by
  cases s with
  | nil => cases found
  | cons c rest =>
      have shorter : (rest.dropWhile isSequenceBody).length ≤ rest.length :=
        (List.dropWhile_suffix isSequenceBody).length_le
      unfold afterSequence? at found
      split at found
      · next same =>
          cases same
          split at found
          · next behind =>
              rw [behind] at shorter
              split at found
              · cases found
                simp only [List.length_cons] at shorter ⊢
                omega
              · cases found
          · cases found
      · cases found

/-- One step for each character is enough, and more change nothing. -/
theorem withoutSequences_congr {n m : Nat} {s : Text} (enough : s.length ≤ n)
    (enough' : s.length ≤ m) : withoutSequences n s = withoutSequences m s := by
  induction n generalizing m s with
  | zero =>
      obtain rfl := List.length_eq_zero_iff.1 (Nat.le_zero.1 enough)
      cases m <;> rfl
  | succ n ih =>
      cases s with
      | nil => cases m <;> rfl
      | cons c rest =>
          cases m with
          | zero => exact absurd enough' (Nat.not_succ_le_zero _)
          | succ m =>
              have rest_le := Nat.le_of_succ_le_succ enough
              have rest_le' := Nat.le_of_succ_le_succ enough'
              rw [withoutSequences, withoutSequences]
              cases found : afterSequence? rest with
              | none => simp only [ih rest_le rest_le']
              | some after =>
                  have shorter := length_lt_of_afterSequence? found
                  simp only [ih rest_le rest_le',
                    ih (s := after) (m := m) (by omega) (by omega)]

theorem onStream_cons (c : Char) (rest : Text) :
    onStream (c :: rest) =
      if c = '\x1B' then
        match afterSequence? rest with
        | some after => onStream after
        | none => c :: onStream rest
      else c :: onStream rest := by
  rw [onStream, List.length_cons, withoutSequences]
  cases found : afterSequence? rest with
  | none => rfl
  | some after =>
      have shorter := length_lt_of_afterSequence? found
      simp only [withoutSequences_congr (Nat.le_of_lt shorter) (Nat.le_refl _)]
      rfl

/-- Characters that are no escape characters arrive as they are. -/
theorem onStream_append_of_plain {head : Text} (plain : '\x1B' ∉ head) (s : Text) :
    onStream (head ++ s) = head ++ onStream s := by
  induction head with
  | nil => rfl
  | cons c rest ih =>
      have other := List.ne_of_not_mem_cons plain
      have plainRest := List.not_mem_of_not_mem_cons plain
      rw [List.cons_append, onStream_cons, if_neg (Ne.symm other), ih plainRest, List.cons_append]

theorem onStream_of_plain {s : Text} (plain : '\x1B' ∉ s) : onStream s = s := by
  have all := onStream_append_of_plain plain []
  rwa [List.append_nil, show onStream [] = [] from rfl, List.append_nil] at all

/-- A colon neither ends a control sequence nor lies in one. -/
theorem afterSequence?_append_colon (s rest : Text) :
    afterSequence? (s ++ ':' :: rest) = (afterSequence? s).map (· ++ ':' :: rest) := by
  have body : isSequenceBody ':' = false := rfl
  have ending : isSequenceEnd ':' = false := rfl
  cases s with
  | nil => rfl
  | cons c s =>
      by_cases bracket : c = '['
      · subst bracket
        rw [List.cons_append, afterSequence?, afterSequence?, List.dropWhile_append]
        cases behind : s.dropWhile isSequenceBody with
        | nil => simp [body, ending]
        | cons d after =>
            by_cases ends : isSequenceEnd d = true <;> simp [ends]
      · unfold afterSequence?
        simp [bracket]

/-- What is behind a colon arrives as it is, whatever is in front of it. -/
theorem onStream_append_colon {rest : Text} (plain : '\x1B' ∉ rest) (s : Text) :
    onStream (s ++ ':' :: rest) = onStream s ++ ':' :: rest := by
  have behind : onStream (':' :: rest) = ':' :: rest :=
    onStream_of_plain (by simpa using plain)
  -- a control sequence is left out in one step, so the induction is on the length
  induction n : s.length using Nat.strongRecOn generalizing s with
  | ind n ih =>
      subst n
      cases s with
      | nil => exact behind
      | cons c s =>
          rw [List.cons_append, onStream_cons, onStream_cons, afterSequence?_append_colon]
          have shorter : onStream (s ++ ':' :: rest) = onStream s ++ ':' :: rest :=
            ih _ (Nat.lt_succ_self _) s rfl
          cases found : afterSequence? s with
          | none => simp only [Option.map_none, shorter]; split <;> rfl
          | some after =>
              have less := length_lt_of_afterSequence? found
              have skipped := ih after.length (Nat.lt_succ_of_lt less) after rfl
              simp only [Option.map_some, shorter, skipped]
              split <;> rfl

end FieldTemplate.Command
