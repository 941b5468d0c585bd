import Wiznet.Kernel.Time
import Wiznet.Library.Stateful

/-!
# A serial channel

What the console functions see of a serial driver: the bytes that arrive, each some ticks after the one before, the
clock, the line that the HM-10 module raises while somebody is connected, and what is printed.  The buffer is the array
that the reader under way is given; it keeps the places that have been written, in order.

A driver that is reset answers `MSG_RESET`, which the callers take for the byte `0xFE`; here it is one of the bytes that
may arrive.
-/

namespace Wiznet

/-! ### Buffers -/

/-- The memory behind a pointer, and the indexes written so far. -/
structure Memoria where
  mem : Nat → UInt8
  escritos : List Nat

/-- `buffer[i] = v`. -/
def Memoria.pon (b : Memoria) (i : Nat) (v : UInt8) : Memoria where
  mem j := if j = i then v else b.mem j
  escritos := b.escritos ++ [i]

/-! ### The channel -/

/-- An argument of `chprintf`. -/
inductive Dato where
  | num (v : UInt32)
  | texto (s : String)
  deriving DecidableEq

/-- What is sent: a text with its format, or a byte. -/
inductive Salida where
  | formato (fmt : String) (datos : List Dato)
  | byte (c : UInt8)
  deriving DecidableEq

structure Tty where
  llegadas : List (Nat × UInt8)
  reloj : Nat
  stHM10 : Nat → Bool
  salida : List Salida
  buffer : Memoria

/-- The bytes, without their times. -/
def Tty.bytes (s : Tty) : List UInt8 := s.llegadas.map Prod.snd

/-- A console where these bytes come at once. -/
def consola (bytes : List UInt8) : Tty where
  llegadas := bytes.map fun c => (0, c)
  reloj := 0
  stHM10 _ := true
  salida := []
  buffer := ⟨fun _ => 0xFF, []⟩

/-- Why a call does not return: it waits for a byte that never comes, or a loop does not end. -/
inductive Detenido where
  | espera
  | loop
  deriving DecidableEq

abbrev TtyM := EStateM Detenido Tty

def ponByte (i : Nat) (v : UInt8) : TtyM Unit := modify fun s => { s with buffer := s.buffer.pon i v }

/-- An array of the caller, with what happens to be in it. -/
def nuevoBuffer (mem : Nat → UInt8) : TtyM Unit := modify fun s => { s with buffer := ⟨mem, []⟩ }

def streamGet : TtyM UInt8 := do
  let s ← get
  match s.llegadas with
  | [] => throw .espera
  | (d, ch) :: l =>
    set { s with llegadas := l, reloj := s.reloj + d }
    return ch

def streamPut (c : UInt8) : TtyM Unit := modify fun s => { s with salida := s.salida ++ [.byte c] }

def imprime (textos : List Salida) : TtyM Unit := modify fun s => { s with salida := s.salida ++ textos }

def chprintf (fmt : String) (datos : List Dato) : TtyM Unit := imprime [.formato fmt datos]

/-- `none` is `MSG_TIMEOUT`. -/
def chnGetTimeout (timeout : UInt32) : TtyM (Option UInt8) := do
  let s ← get
  match s.llegadas with
  | [] =>
    if timeout = TIME_INFINITE then throw .espera
    set { s with reloj := s.reloj + timeout.toNat }
    return none
  | (d, ch) :: l =>
    if timeout = TIME_INFINITE ∨ d ≤ timeout.toNat then
      set { s with llegadas := l, reloj := s.reloj + d }
      return some ch
    else
      set { s with llegadas := (d - timeout.toNat, ch) :: l, reloj := s.reloj + timeout.toNat }
      return none

/-- `palReadLine(LINE_STHM10)`. -/
def palReadLineSTHM10 : TtyM Bool := do
  let s ← get
  return s.stHM10 s.reloj

end Wiznet
