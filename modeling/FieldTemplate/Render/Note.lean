import FieldTemplate.Text.Basic

/-!
# Notes

What the library tells a curious reader while it works.  A traced result is a result with
the notes made on the way to it, also on the way to an error.
-/

namespace FieldTemplate

set_option autoImplicit false

inductive Note where
  | tokenized (characters tokens : Nat)
  | parsed (nodes : Nat)
  | missing (expr : Text)
  | loaded (keys : Nat) (path : Text)
deriving DecidableEq, Repr

def Note.message : Note → Text
  | .tokenized characters tokens =>
    "Tokenized ".toList ++ Text.ofNat characters ++ " chars into ".toList ++
      Text.ofNat tokens ++ " tokens".toList
  | .parsed nodes => "Parsed ".toList ++ Text.ofNat nodes ++ " nodes".toList
  | .missing expr => "Field '".toList ++ expr ++ "' is missing, rendering empty".toList
  | .loaded keys path =>
    "Loaded ".toList ++ Text.ofNat keys ++ " top-level keys from ".toList ++ path

structure Traced (ε α : Type) where
  notes : List Note
  result : Except ε α

namespace Traced

variable {ε α β : Type}

def ofExcept (result : Except ε α) : Traced ε α := ⟨[], result⟩

def note (n : Note) (t : Traced ε α) : Traced ε α := ⟨n :: t.notes, t.result⟩

def bind (t : Traced ε α) (f : α → Traced ε β) : Traced ε β :=
  match t.result with
  | .error e => ⟨t.notes, .error e⟩
  | .ok a => ⟨t.notes ++ (f a).notes, (f a).result⟩

instance : Monad (Traced ε) where
  pure a := ⟨[], .ok a⟩
  bind := bind

end Traced

end FieldTemplate
