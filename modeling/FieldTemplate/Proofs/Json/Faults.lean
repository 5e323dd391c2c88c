import FieldTemplate.Json.Reader
import Mathlib.Data.List.Basic

/-!
# Faults of JSON behind its grammar

A reader goes on behind what it has read, so what it meets stands in the text (`Stays`), and it is
inside of no more arrays and objects than have been opened there (`Inside`).  A fault of encoding is
therefore that of a string in the text, whose bytes are no UTF-8 (`garbled_of_read`), and a text
that is too deep has brackets for that (`tooDeep_of_read`).
-/

namespace FieldTemplate.Json

set_option autoImplicit false

/-- A string of the text is no UTF-8, once its escapes are resolved. -/
def Garbled (bytes : List UInt8) (e : Utf8Error) : Prop :=
  ∃ quoted content rest, byte '"' :: quoted <:+ bytes ∧
    stringBytes (quoted.length + 1) [] quoted = some (content, rest) ∧
    Utf8.decode content = .error e

/-- Brackets that open an array or an object. -/
def opens (b : UInt8) : Bool := b = byte '[' || b = byte '\x7b'

/-- The stack has no room for an array or an object inside of so many others of the text. -/
def TooDeep [Host] (bytes : List UInt8) : Prop :=
  ∃ level < bytes.countP opens, Host.room .json level = false

/-- The end of a text, inside of arrays and objects that have been opened in front of it. -/
structure Inside (bytes : List UInt8) (level : Nat) (bs : List UInt8) : Prop where
  suffix : bs <:+ bytes
  opened : level + bs.countP opens ≤ bytes.countP opens

variable {bytes bs rest : List UInt8} {level : Nat}

namespace Inside

theorem start (bytes : List UInt8) : Inside bytes 0 bytes :=
  ⟨List.suffix_rfl, Nat.le_of_eq (Nat.zero_add _)⟩

theorem behind (inside : Inside bytes level bs) (suffix : rest <:+ bs) :
    Inside bytes level rest where
  suffix := suffix.trans inside.suffix
  opened := Nat.le_trans (Nat.add_le_add_left suffix.sublist.countP_le level) inside.opened

theorem tail {b : UInt8} (inside : Inside bytes level (b :: rest)) : Inside bytes level rest :=
  inside.behind (List.suffix_cons b rest)

theorem room {b : UInt8} (inside : Inside bytes level (b :: rest)) (opening : opens b = true) :
    level < bytes.countP opens := by
  have opened := inside.opened
  rw [List.countP_cons_of_pos opening] at opened
  omega

theorem deeper {b : UInt8} (inside : Inside bytes level (b :: rest)) (opening : opens b = true) :
    Inside bytes (level + 1) rest where
  suffix := inside.tail.suffix
  opened := by
    have opened := inside.opened
    rw [List.countP_cons_of_pos opening] at opened
    omega

theorem outside (inside : Inside bytes (level + 1) bs) : Inside bytes level bs :=
  ⟨inside.suffix, Nat.le_trans (Nat.add_le_add_right level.le_succ _) inside.opened⟩

end Inside

section

variable [Host]

/-- What is read stands in the text, and so does what it fails of. -/
structure Stays {α : Type} (bytes : List UInt8) (level : Nat) (x : Read α) : Prop where
  ok : ∀ {a rest}, x = .ok (a, rest) → Inside bytes level rest
  encoding : ∀ {e}, x = .error (.encoding e) → Garbled bytes e
  tooDeep : x = .error .tooDeep → TooDeep bytes

namespace Stays

variable {α β : Type}

theorem malformed : Stays bytes level (.error .malformed : Read α) := ⟨nofun, nofun, nofun⟩

theorem rethrow {x : Read α} {e : JsonError} (stays : Stays bytes level x) (failed : x = .error e) :
    Stays bytes level (.error e : Read β) where
  ok read := nomatch read
  encoding same := by
    cases same
    exact stays.encoding failed
  tooDeep same := by
    cases same
    exact stays.tooDeep failed

theorem done {a : α} (inside : Inside bytes level rest) : Stays bytes level (.ok (a, rest)) where
  ok same := by
    cases same
    exact inside
  encoding same := nomatch same
  tooDeep same := nomatch same

theorem map {x : Read α} {f : α × List UInt8 → β × List UInt8} (stays : Stays bytes level x)
    (same : ∀ p, (f p).2 = p.2) : Stays bytes level (x.map f) where
  ok {b rest} read := by
    cases x with
    | error e => cases read
    | ok p =>
        have behind := stays.ok (rfl : Except.ok p = .ok (p.1, p.2))
        rw [← same p, show f p = (b, rest) from Except.ok.inj read] at behind
        exact behind
  encoding {e} failed := by
    cases x with
    | error e' =>
        cases failed
        exact stays.encoding rfl
    | ok p => cases failed
  tooDeep failed := by
    cases x with
    | error e' =>
        cases failed
        exact stays.tooDeep rfl
    | ok p => cases failed

theorem outside {x : Read α} (stays : Stays bytes (level + 1) x) : Stays bytes level x :=
  ⟨fun read => (stays.ok read).outside, stays.encoding, stays.tooDeep⟩

/-- An array or an object is only read where the stack has room for it. -/
theorem ifRoom {b : UInt8} {x : Read α} (inside : Inside bytes level (b :: rest))
    (opening : opens b = true) (stays : Stays bytes level x) :
    Stays bytes level (if !Host.room .json level then .error .tooDeep else x) := by
  split
  · next full => exact ⟨nofun, nofun, fun _ => ⟨level, inside.room opening, by simpa using full⟩⟩
  · exact stays

end Stays

end

theorem skipSpace_suffix (bs : List UInt8) : skipSpace bs <:+ bs := List.dropWhile_suffix _

theorem Inside.of_skipSpace {b : UInt8} (inside : Inside bytes level bs)
    (ahead : skipSpace bs = b :: rest) : Inside bytes level (b :: rest) :=
  inside.behind (ahead ▸ skipSpace_suffix bs)

theorem tail_suffix {b : UInt8} (inside : b :: rest <:+ bytes) : rest <:+ bytes :=
  (List.suffix_cons b rest).trans inside

/-! ## Strings -/

theorem suffix_of_codeUnit {n : Nat} (read : codeUnit? bs = some (n, rest)) : rest <:+ bs := by
  unfold codeUnit? at read
  split at read
  · dsimp only at read
    split at read <;> cases read
    exact ⟨[_, _, _, _], rfl⟩
  · cases read

theorem suffix_of_codePoint {n : Nat} (read : codePoint? bs = some (n, rest)) : rest <:+ bs := by
  unfold codePoint? at read
  split at read
  · cases read
  · next unit =>
    have first := suffix_of_codeUnit unit
    split at read
    · cases read
    split at read
    · split at read
      · split at read
        · split at read
          · next unit' =>
            split at read
            · obtain ⟨-, rfl⟩ := Prod.mk.inj (Option.some.inj read)
              exact (suffix_of_codeUnit unit').trans (tail_suffix (tail_suffix first))
            · cases read
          · cases read
        · cases read
      · cases read
    · cases read
      exact first

theorem suffix_ite {α : Type} {c : Prop} [Decidable c] {x y : Option (α × List UInt8)}
    (here : ∀ p ∈ x, p.2 <:+ bs) (there : ∀ p ∈ y, p.2 <:+ bs) :
    ∀ p ∈ if c then x else y, p.2 <:+ bs := by
  split
  · exact here
  · exact there

theorem suffix_of_stringBytes (fuel : Nat) (done bs : List UInt8) :
    ∀ p ∈ stringBytes fuel done bs, p.2 <:+ bs := by
  induction fuel generalizing done bs with
  | zero => exact nofun
  | succ fuel ih =>
      cases bs with
      | nil => exact nofun
      | cons b bs =>
          have behind : bs <:+ b :: bs := List.suffix_cons b bs
          rw [stringBytes.eq_def]
          refine suffix_ite (fun p same => ?_) ?_
          · cases same
            exact behind
          refine suffix_ite nofun ?_
          refine suffix_ite (fun p same => (ih _ _ p same).trans behind) ?_
          cases bs with
          | nil => exact nofun
          | cons c bs =>
              have behind : bs <:+ b :: c :: bs := (List.suffix_cons c bs).trans behind
              dsimp only
              -- the escapes of one character, and that of a code point
              iterate 6 refine suffix_ite (fun p same => (ih _ _ p same).trans behind) ?_
              refine suffix_ite ?_ nofun
              cases unit : codePoint? bs with
              | none => exact nofun
              | some read =>
                  exact fun p same =>
                    (ih _ _ p same).trans ((suffix_of_codePoint unit).trans behind)

theorem stays_string [Host] {quoted : List UInt8}
    (inside : Inside bytes level (byte '"' :: quoted)) : Stays bytes level (string quoted) := by
  rw [string]
  split
  · exact .malformed
  · next content rest read =>
    split
    · next e failed =>
      refine ⟨nofun, fun same => ?_, nofun⟩
      cases same
      exact ⟨quoted, content, rest, inside.suffix, read, failed⟩
    · exact .done (inside.tail.behind (suffix_of_stringBytes _ _ _ _ read))

/-! ## Numbers and words -/

theorem suffix_of_digits {ds : Text} (cut : digits bs = (ds, rest)) : rest <:+ bs := by
  cases cut
  exact List.dropWhile_suffix _

theorem suffix_of_fraction {places : Option Text} (read : fraction bs = some (places, rest)) :
    rest <:+ bs := by
  unfold fraction at read
  split at read
  · next b bs =>
    split at read
    · split at read
      next ds rest cut =>
      split at read <;> cases read
      exact (suffix_of_digits cut).trans (List.suffix_cons b bs)
    · cases read
      exact List.suffix_rfl
  · cases read
    exact List.suffix_rfl

theorem suffix_of_exponent {power : Option Int} (read : exponent bs = some (power, rest)) :
    rest <:+ bs := by
  unfold exponent at read
  split at read
  · next b bs =>
    split at read
    · split at read
      next negative unsigned signed =>
      have behind : unsigned <:+ bs := by
        cases bs with
        | nil => cases signed; exact List.suffix_rfl
        | cons c bs =>
            dsimp only at signed
            split at signed
            · cases signed
              exact List.suffix_cons _ _
            split at signed <;> cases signed
            · exact List.suffix_cons _ _
            · exact List.suffix_rfl
      split at read
      next ds rest cut =>
      split at read <;> cases read
      exact ((suffix_of_digits cut).trans behind).trans (List.suffix_cons b bs)
    · cases read
      exact List.suffix_rfl
  · cases read
    exact List.suffix_rfl

theorem stays_number [Host] (inside : Inside bytes level bs) : Stays bytes level (number bs) := by
  unfold number
  split
  next negative unsigned signed =>
  have front : unsigned <:+ bs := by
    cases bs with
    | nil => cases signed; exact List.suffix_rfl
    | cons b bs =>
        dsimp only at signed
        split at signed <;> cases signed
        · exact List.suffix_cons _ _
        · exact List.suffix_rfl
  split
  next whole rest cut =>
  have inside := inside.behind ((suffix_of_digits cut).trans front)
  split
  · exact .malformed
  split
  · exact .malformed
  next places rest read =>
  have inside := inside.behind (suffix_of_fraction read)
  split
  · exact .malformed
  next power rest read =>
  have inside := inside.behind (suffix_of_exponent read)
  split
  · split
    · exact .malformed
    · exact .done inside
  dsimp only
  split
  · exact .malformed
  · exact .done inside

theorem stays_word [Host] (w : String) (a : Atom) (inside : Inside bytes level bs) :
    Stays bytes level (word w a bs) := by
  rw [word]
  split
  · exact .done (inside.behind (List.drop_suffix _ bs))
  · exact .malformed

/-! ## Values -/

section

variable [Host]

/-- The readers with so much fuel. -/
structure ReadersStay (bytes : List UInt8) (fuel : Nat) : Prop where
  value : ∀ {level bs}, Inside bytes level bs → Stays bytes level (value level fuel bs)
  items : ∀ {level bs}, Inside bytes level bs → Stays bytes level (items level fuel bs)
  members : ∀ {level bs}, Inside bytes level bs →
    ∀ entries, Stays bytes level (members level fuel entries bs)

namespace ReadersStay

variable {fuel : Nat}

theorem value_succ (ih : ReadersStay bytes fuel) (inside : Inside bytes level bs) :
    Stays bytes level (Json.value level (fuel + 1) bs) := by
  rw [Json.value]
  split
  · exact .malformed
  next b rest ahead =>
  have first := inside.of_skipSpace ahead
  split
  · next brace =>
    have opening : opens b = true := by simp [opens, brace]
    refine .ifRoom first opening ?_
    split
    · next c after ahead =>
      have second := (first.deeper opening).of_skipSpace ahead
      split
      · exact .done second.tail.outside
      · exact (ih.members second []).outside.map fun _ => rfl
    · exact .malformed
  split
  · next bracket =>
    have opening : opens b = true := by simp [opens, bracket]
    refine .ifRoom first opening ?_
    split
    · next c after ahead =>
      have second := (first.deeper opening).of_skipSpace ahead
      split
      · exact .done second.tail.outside
      · exact (ih.items second).outside.map fun _ => rfl
    · exact .malformed
  split
  · next quote => exact (stays_string (quote ▸ first)).map fun _ => rfl
  split
  · exact stays_word _ _ first
  split
  · exact stays_word _ _ first
  split
  · exact stays_word _ _ first
  · exact (stays_number first).map fun _ => rfl

theorem items_succ (ih : ReadersStay bytes fuel) (inside : Inside bytes level bs) :
    Stays bytes level (Json.items level (fuel + 1) bs) := by
  have item := ih.value inside
  rw [Json.items]
  split
  · next failed => exact item.rethrow failed
  next v rest read =>
  split
  · next c rest ahead =>
    have behind := ((item.ok read).of_skipSpace ahead).tail
    split
    · exact (ih.items behind).map fun _ => rfl
    split
    · exact .done behind
    · exact .malformed
  · exact .malformed

theorem members_succ (ih : ReadersStay bytes fuel) (inside : Inside bytes level bs)
    (entries : Entries) : Stays bytes level (Json.members level (fuel + 1) entries bs) := by
  rw [Json.members]
  split
  · next q rest ahead =>
    have first := inside.of_skipSpace ahead
    split
    · exact .malformed
    next quote =>
    have name := stays_string (not_not.1 quote ▸ first)
    split
    · next failed => exact name.rethrow failed
    next name' rest read =>
    split
    · next c rest ahead =>
      have behind := ((name.ok read).of_skipSpace ahead).tail
      split
      · exact .malformed
      have member := ih.value behind
      split
      · next failed => exact member.rethrow failed
      next v rest read =>
      dsimp only
      split
      · next d rest ahead =>
        have behind := ((member.ok read).of_skipSpace ahead).tail
        split
        · exact ih.members behind _
        split
        · exact .done behind
        · exact .malformed
      · exact .malformed
    · exact .malformed
  · exact .malformed

end ReadersStay

theorem readersStay (bytes : List UInt8) (fuel : Nat) : ReadersStay bytes fuel := by
  induction fuel with
  | zero => exact ⟨fun _ => .malformed, fun _ => .malformed, fun _ _ => .malformed⟩
  | succ fuel ih => exact ⟨ih.value_succ, ih.items_succ, ih.members_succ⟩

/-- **A fault of encoding is that of a string in the text.** -/
theorem garbled_of_read {e : Utf8Error} (failed : read bytes = .error (.encoding e)) :
    Garbled bytes e := by
  rw [read] at failed
  split at failed
  · next inner =>
    cases failed
    exact ((readersStay bytes _).value (.start bytes)).encoding inner
  · split at failed <;> cases failed

/-- **A text that is too deep** has brackets for so many levels. -/
theorem tooDeep_of_read (failed : read bytes = .error .tooDeep) : TooDeep bytes := by
  rw [read] at failed
  split at failed
  · next inner =>
    cases failed
    exact ((readersStay bytes _).value (.start bytes)).tooDeep inner
  · split at failed <;> cases failed

end

end FieldTemplate.Json
