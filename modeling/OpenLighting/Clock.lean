import Mathlib.Algebra.Order.Ring.Int
import Mathlib.Tactic.Common

namespace OpenLighting

def usecInSeconds : Int := 1000000

/-- What an `int64_t` holds. -/
def toInt64 (value : Int) : Int := value.bmod (2 ^ 64)

/-- `BaseTimeVal`, a `timeval`. -/
structure TimeVal where
  sec : Int
  usec : Int
  deriving DecidableEq

namespace TimeVal

/-- `BaseTimeVal()`. -/
def clear : TimeVal := ⟨0, 0⟩

/-- `timerisset`. -/
def isSet (time : TimeVal) : Bool := time.sec != 0 || time.usec != 0

/-- `timercmp` with `<`. -/
def before (time other : TimeVal) : Bool :=
  if time.sec = other.sec then time.usec < other.usec else time.sec < other.sec

/-- `timeradd`. -/
def add (time interval : TimeVal) : TimeVal :=
  let sec := time.sec + interval.sec
  let usec := time.usec + interval.usec
  if usecInSeconds ≤ usec then ⟨sec + 1, usec - usecInSeconds⟩ else ⟨sec, usec⟩

/-- `BaseTimeVal(int64_t)`: the division rounds towards zero. -/
def ofMicroseconds (interval : Int) : TimeVal :=
  ⟨interval.tdiv usecInSeconds, interval.tmod usecInSeconds⟩

end TimeVal

end OpenLighting
