import Mathlib.Data.Rat.Defs

/-!
# Latest-value buffers

`DataBuffer<T>` holds the newest value and the steady-clock time it was stored at. Each
method takes the buffer's lock, so each is one atomic operation. Times are nanoseconds of
the steady clock; `0` is the value-initialized `time_point{}` of an empty read.
-/

namespace Gearsonic

/-- `std::chrono::steady_clock::time_point`, in nanoseconds. -/
abbrev TimePoint := Nat

/-- One read of a buffer: the value, if there is one, and its receive time. -/
structure TimestampedData (α : Type) where
  data : Option α := none
  timestamp : TimePoint := 0

namespace TimestampedData

variable {α : Type}

def hasData (d : TimestampedData α) : Bool := d.data.isSome

/-- Age in milliseconds at time `now`, in whole microseconds; `-1` without data. -/
def getAgeMs (d : TimestampedData α) (now : TimePoint) : ℚ :=
  if d.hasData then ((now - d.timestamp) / 1000 : Nat) / 1000 else -1

end TimestampedData

structure DataBuffer (α : Type) where
  data : Option α := none
  lastUpdateTime : TimePoint := 0

namespace DataBuffer

variable {α : Type}

def setData (_ : DataBuffer α) (v : α) (now : TimePoint) : DataBuffer α := ⟨some v, now⟩

def getData (b : DataBuffer α) : Option α := b.data

def getDataWithTime (b : DataBuffer α) : TimestampedData α :=
  match b.data with
  | some v => ⟨some v, b.lastUpdateTime⟩
  | none => {}

def clear (_ : DataBuffer α) : DataBuffer α := {}

@[simp] theorem getData_setData (b : DataBuffer α) (v : α) (now : TimePoint) :
    (b.setData v now).getData = some v := rfl

@[simp] theorem data_setData (b : DataBuffer α) (v : α) (now : TimePoint) :
    (b.setData v now).data = some v := rfl

@[simp] theorem lastUpdateTime_setData (b : DataBuffer α) (v : α) (now : TimePoint) :
    (b.setData v now).lastUpdateTime = now := rfl

@[simp] theorem data_clear (b : DataBuffer α) : b.clear.data = none := rfl

@[simp] theorem getDataWithTime_data (b : DataBuffer α) : b.getDataWithTime.data = b.data := by
  unfold getDataWithTime
  split <;> simp_all

end DataBuffer

end Gearsonic
