/-!
# System time

The system clock of ChibiOS as `chconf.h` sets it up, 32 bits wide.
-/

namespace Wiznet

/-- System ticks in a second, from `chconf.h`. -/
def CH_CFG_ST_FREQUENCY : Nat := 10000

/-- System ticks in `n` milliseconds. -/
def ticksMs (n : Nat) : Nat := n * (CH_CFG_ST_FREQUENCY / 1000)

/-- `TIME_MS2I`. -/
def ms2i (ms : UInt32) : UInt32 := ((ms.toNat * CH_CFG_ST_FREQUENCY + 999) / 1000).toUInt32

/-- `TIME_I2MS`. -/
def i2ms (interval : UInt32) : UInt32 :=
  ((interval.toNat * 1000 + CH_CFG_ST_FREQUENCY - 1) / CH_CFG_ST_FREQUENCY).toUInt32

/-- An interval that does not end. -/
def TIME_INFINITE : UInt32 := 0xFFFFFFFF

end Wiznet
