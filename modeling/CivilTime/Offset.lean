import CivilTime.Text.Align

/-!
# Offsets

An **offset** says how an instant is to be shown: in Universal Time, a fixed number of
seconds away from it, in the local zone of whoever looks, or in a zone of the database.
The last two are only names; what stands behind them is looked up when it is needed.

Two offsets may show every instant alike and still be different offsets: a fixed offset
of no seconds is not Universal Time.

* `CivilTime.Offset.fixedText`: a fixed offset as `+0930`;
* `CivilTime.Offset.text`: the text of any offset.
-/

namespace CivilTime

/-- How an instant is to be shown. -/
inductive Offset
  /-- Universal Time. -/
  | utc
  /-- Ahead of Universal Time by this many seconds, at all times. -/
  | fixed (seconds : Int)
  /-- The local zone. -/
  | localZone
  /-- The zone of this name. -/
  | named (key : String)
  deriving DecidableEq, Repr

namespace Offset

/-- The characters of a fixed offset: sign, two digits of hours and two of minutes.
Seconds beyond the minute are dropped. -/
def fixedChars (seconds : Int) : List Char :=
  let size := (seconds.natAbs : Int)
  (if seconds < 0 then '-' else '+')
    :: (Text.zeroPaddedChars 2 (size / 3600) ++ Text.zeroPaddedChars 2 (size % 3600 / 60))

/-- **The text of a fixed offset**, such as `+0930`. -/
def fixedText (seconds : Int) : String :=
  String.ofList (fixedChars seconds)

/-- **The text of an offset.** A named zone is its name. -/
def text : Offset → String
  | utc => "UTC"
  | fixed seconds => fixedText seconds
  | localZone => "local"
  | named key => key

/-- Whether an offset is Universal Time itself. -/
def isUtc : Offset → Bool
  | utc => true
  | _ => false

end Offset

end CivilTime
