import Wiznet.Tty.Canal

/-!
# Reading from the console

The readers of `gets.cpp`.  The loops that the source leaves by `break` are given as many rounds as they can take: each
round takes a byte or, in `chgetsNoEchoTimeOutHM10`, a part of the time that is left.
-/

namespace Wiznet

def chgetch : TtyM UInt8 := streamGet

/-- The loop of `chgets`, and its final `pos`. -/
def chgetsLoop (size : UInt8) : Nat → Nat → TtyM Nat
  | 0, _ => throw .loop
  | fuel + 1, pos => do
    if size.toNat ≤ pos then return pos
    let ch ← chgetch
    if ch = 0x0A ∨ ch = 0x0D then
      streamPut ch
      return pos
    if ch = 8 ∧ 0 < pos then
      streamPut ch
      chgetsLoop size fuel (pos - 1)
    else if 0x20 ≤ ch then
      streamPut ch
      ponByte pos ch
      chgetsLoop size fuel (pos + 1)
    else if ch = 0x1b then
      let ch1 ← chgetch
      -- not the code of an arrow
      if ch1 ≠ 0x5b then chgetsLoop size fuel pos
      else
        let ch2 ← chgetch
        if ch2 = 0x44 ∧ 0 < pos then
          streamPut 8
          chgetsLoop size fuel (pos - 1)
        else chgetsLoop size fuel pos
    else chgetsLoop size fuel pos

def chgets (size : UInt8) : TtyM Unit := do
  let pos ← chgetsLoop size ((← get).llegadas.length + 1) 0
  ponByte pos 0

/-- The byte, and `*huboTimeout`. -/
def chgetchTimeOut (timeout : UInt32) : TtyM (UInt8 × UInt8) := do
  match ← chnGetTimeout timeout with
  | none => return (0, 1)
  | some ch => return (ch, 0)

def limpiaBufferLoop : Nat → TtyM Unit
  | 0 => throw .loop
  | fuel + 1 => do
    let (_, huboTimeout) ← chgetchTimeOut (ms2i 10)
    if huboTimeout ≠ 0 then return
    limpiaBufferLoop fuel

def limpiaBuffer : TtyM Unit := do
  limpiaBufferLoop ((← get).llegadas.length + 1)

/-- The loop of `chgetsNoEchoTimeOut`: final `pos` and `*huboTimeout`. -/
def noEchoLoop (bufferSize : UInt16) (timeout : UInt32) : Nat → UInt16 → TtyM (UInt16 × UInt8)
  | 0, _ => throw .loop
  | fuel + 1, pos => do
    let (ch, huboTimeout) ← chgetchTimeOut timeout
    if huboTimeout ≠ 0 then return (pos, huboTimeout)
    if ch = 0x0D then noEchoLoop bufferSize timeout fuel pos
    else if ch = 0x0A then return (pos, huboTimeout)
    else if pos < bufferSize then
      ponByte pos.toNat ch
      noEchoLoop bufferSize timeout fuel (pos + 1)
    else noEchoLoop bufferSize timeout fuel pos

def chgetsNoEchoTimeOut (bufferSize : UInt16) (timeout : UInt32) : TtyM UInt8 := do
  let (pos, huboTimeout) ← noEchoLoop bufferSize timeout ((← get).llegadas.length + 1) 0
  ponByte pos.toNat 0
  return huboTimeout

/-- The loop of `chgetsNoEchoTimeOutHM10`, which waits in parts of 100 ms and looks at the connection after each. -/
def noEchoHM10Loop (bufferSize : UInt16) : Nat → UInt16 → UInt32 → TtyM (UInt16 × UInt8)
  | 0, _, _ => throw .loop
  | fuel + 1, pos, timeout => do
    let (ch, huboTimeout) ← chgetchTimeOut (ms2i 100)
    if huboTimeout ≠ 0 then
      if timeout < ms2i 100 then return (pos, 1)
      else if !(← palReadLineSTHM10) then
        -- nobody is connected any more
        ponByte 0 0
        return (pos, 1)
      else noEchoHM10Loop bufferSize fuel pos (timeout - ms2i 100)
    else if ch = 0x0D then noEchoHM10Loop bufferSize fuel pos timeout
    else if ch = 0x0A then return (pos, huboTimeout)
    else if pos < bufferSize then
      ponByte pos.toNat ch
      noEchoHM10Loop bufferSize fuel (pos + 1) timeout
    else noEchoHM10Loop bufferSize fuel pos timeout

def chgetsNoEchoTimeOutHM10 (bufferSize : UInt16) (timeout : UInt32) : TtyM UInt8 := do
  let (pos, huboTimeout) ← noEchoHM10Loop bufferSize ((← get).llegadas.length + timeout.toNat / (ms2i 100).toNat + 1)
    0 timeout
  ponByte pos.toNat 0
  return huboTimeout

/-- The loop of `chgetNextionNoEchoTimeOut`: messages start with `@` and end with a zero. -/
def nextionLoop (bufferSize : UInt16) (timeout : UInt32) : Nat → UInt16 → TtyM (UInt16 × UInt8)
  | 0, _ => throw .loop
  | fuel + 1, numBytes => do
    let (ch, huboTimeout) ← chgetchTimeOut timeout
    if huboTimeout ≠ 0 then return (numBytes, huboTimeout)
    let numBytes ← if numBytes < bufferSize then do
        ponByte numBytes.toNat ch
        pure (numBytes + 1)
      else pure numBytes
    if 1 < numBytes ∧ (← get).buffer.mem 0 = 0x40 ∧ ch = 0 then return (numBytes, huboTimeout)
    nextionLoop bufferSize timeout fuel numBytes

/-- `*numBytes` and `*huboTimeout`. -/
def chgetNextionNoEchoTimeOut (bufferSize : UInt16) (timeout : UInt32) : TtyM (UInt16 × UInt8) := do
  nextionLoop bufferSize timeout ((← get).llegadas.length + 1) 0

end Wiznet
