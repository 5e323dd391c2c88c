import FieldTemplate.Number.Shortest
import FieldTemplate.Text.Quoted
import FieldTemplate.Value.Basic

/-!
# How atoms are shown in messages

The notation of a literal or of a constructor call, so that the type of an atom can be told
from it.
-/

namespace FieldTemplate

set_option autoImplicit false

def commaSeparated (parts : List Text) : Text := Text.join [',', ' '] parts

def call (name : String) (arguments : List Text) : Text :=
  name.toList ++ '(' :: commaSeparated arguments ++ [')']

def byteShown (b : UInt8) : Text :=
  let c := Char.ofNat b.toNat
  if c = '\'' then ['\\', '\''] else Text.quoteChar '\'' c

def bytesShown (bs : List UInt8) : Text :=
  'b' :: '\'' :: (bs.flatMap fun b => if b < 0x80 then byteShown b else '\\' :: 'x' ::
    Text.hexDigits 2 b.toNat) ++ ['\'']

def offsetShown (offset : Option Int) : List Text :=
  match offset with
  | none => []
  | some seconds =>
    ["tzinfo=".toList ++ if seconds = 0 then "datetime.timezone.utc".toList
      else call "datetime.timezone" [durationText seconds]]

/-- Hours and minutes always; seconds and microseconds only as far as one is not zero. -/
def clockShown (t : TimeOfDay) : List Text :=
  let fields := if t.micro ≠ 0 then [t.hour, t.minute, t.second, t.micro]
    else if t.second ≠ 0 then [t.hour, t.minute, t.second] else [t.hour, t.minute]
  fields.map Text.ofNat ++ offsetShown t.offset

def dateShown (d : Date) : List Text := [d.year, d.month, d.day].map Text.ofNat

def Atom.shown : Atom → Text
  | .null => "None".toList
  | .bool b => if b then "True".toList else "False".toList
  | .int n => Text.ofInt n
  | .double x => x.toText
  | .notANumber => Binary64.nan.toText
  | .decimal x => call "Decimal" [Text.quoted x.toText]
  | .fraction q => call "Fraction" [Text.ofInt q.num, Text.ofNat q.den]
  | .date d => call "datetime.date" (dateShown d)
  | .timestamp t => call "datetime.datetime" (dateShown t.date ++ clockShown t.time)
  | .time t => call "datetime.time" (clockShown t)
  | .text s => WideText.quoted s
  | .bytes bs => bytesShown bs
  | .complex .. => "complex".toList
  | .range a b => call "range" [Text.ofInt a, Text.ofInt b]
  | .object => "<object>".toList

end FieldTemplate
