import Breadcrumb.Machine.Run
import Breadcrumb.Machine.Words
import Breadcrumb.Machine.Exchange

/-!
The interrupt-driven transfers of `nrf_drv_spi.c` on an SPI instance without
EasyDMA, with the peripheral they run on. The peripheral shifts bytes whenever
it has one to send, the handler runs whenever a READY event is up, and other
requests come in at any time; a transfer is what all of these make of it.
-/

namespace Breadcrumb.Driver

open Breadcrumb.Machine

/-- `nrf_drv_spi_xfer_desc_t`, the buffers as what stands behind their pointers. -/
structure XferDesc where
  pTxBuffer : Nat → Byte
  txLength : Byte
  pRxBuffer : Nat → Byte
  rxLength : Byte

/-- `spi_control_block_t` with a user handler; `done` is `evt.data.done`. -/
structure SpiControlBlock where
  done : XferDesc
  transferInProgress : Bool
  orc : Byte
  bytesTransferred : Byte
  abort : Bool

/-- TXD and RXD are double buffered: `txd` is what is written and not yet shifted out,
`rxd` what is shifted in and not yet read. READY comes up when a byte moves to RXD. -/
structure SpiRegisters where
  txd : List Byte
  rxd : List Byte
  ready : Bool
  intReady : Bool

/-- `rxData` is the variable of `transfer_byte` while the interrupt handler is at work. -/
structure SpiSystem (τ : Type) where
  cb : SpiControlBlock
  regs : SpiRegisters
  rxData : Option Byte
  selected : Bool
  spiXferDone : Bool
  slave : τ

inductive RetCode where
  | success
  | errorBusy
  deriving DecidableEq

/-- A third byte overwrites the buffered one. -/
def nrfSpiTxdSet (data : Byte) (regs : SpiRegisters) : SpiRegisters :=
  { regs with txd := if regs.txd.length < 2 then regs.txd ++ [data]
      else regs.txd.dropLast ++ [data] }

def spiXfer {τ : Type} (desc : XferDesc) (s : SpiSystem τ) : SpiSystem τ :=
  let regs := { s.regs with intReady := false, ready := false }
  let regs := nrfSpiTxdSet (if desc.txLength > 0 then desc.pTxBuffer 0 else s.cb.orc) regs
  let regs :=
    if desc.txLength > 1 then nrfSpiTxdSet (desc.pTxBuffer 1) regs
    else if desc.rxLength > 1 then nrfSpiTxdSet s.cb.orc regs
    else regs
  { s with cb := { s.cb with bytesTransferred := 0 }, regs := { regs with intReady := true } }

section Slave

variable {τ : Type} (slave : Slave Byte τ)

/-- `nrf_drv_spi_xfer` without flags. -/
def nrfDrvSpiXfer (desc : XferDesc) (s : SpiSystem τ) : RetCode × SpiSystem τ :=
  if s.cb.transferInProgress then (.errorBusy, s)
  else
    (.success, spiXfer desc { s with
      cb := { s.cb with transferInProgress := true, done := desc, abort := false }
      selected := true
      slave := slave.select s.slave })

/-- `p_rx_buffer[bytes_transferred] = rx_data`, if it is needed. -/
def storeByte (rxData : Byte) (cb : SpiControlBlock) : XferDesc :=
  if cb.bytesTransferred < cb.done.rxLength then
    { cb.done with
      pRxBuffer := Function.update cb.done.pRxBuffer cb.bytesTransferred.toNat rxData }
  else cb.done

/-- What `abort` does to the lengths. -/
def truncate (bytesUsed : Nat) (done : XferDesc) : XferDesc :=
  { done with
    txLength := if bytesUsed < done.txLength.toNat then BitVec.ofNat 8 bytesUsed else done.txLength
    rxLength := if bytesUsed < done.rxLength.toNat then BitVec.ofNat 8 bytesUsed
      else done.rxLength }

/-- `transfer_byte` behind the read of RXD. -/
def transferByte (rxData : Byte) (s : SpiSystem τ) : Bool × SpiSystem τ :=
  let bytesTransferred := s.cb.bytesTransferred + 1
  let bytesUsed := bytesTransferred.toNat + 1
  let done := storeByte rxData s.cb
  let done := if s.cb.abort then truncate bytesUsed done else done
  let s := { s with cb := { s.cb with done := done, bytesTransferred := bytesTransferred } }
  if bytesUsed < done.txLength.toNat then
    (true, { s with regs := nrfSpiTxdSet (done.pTxBuffer bytesUsed) s.regs })
  else if bytesUsed < done.rxLength.toNat then
    (true, { s with regs := nrfSpiTxdSet s.cb.orc s.regs })
  else (bytesTransferred < done.txLength || bytesTransferred < done.rxLength, s)

/-- `finish_transfer`, with `spi_event_handler` of the port as the handler. -/
def finishTransfer (s : SpiSystem τ) : SpiSystem τ :=
  { s with
    selected := false
    slave := slave.deselect s.slave
    cb := { s.cb with transferInProgress := false }
    spiXferDone := true }

/-- What happens next: the peripheral shifts a byte, the interrupt handler clears the event
and reads RXD, or does the rest of its work, or the program asks for another transfer or
for an end of this one. -/
inductive SpiEvent where
  | shift
  | irqEnter
  | irqLeave
  | transfer (desc : XferDesc)
  | abort

/-- The peripheral stops where it has nothing to send or nowhere to put a byte. -/
def shiftByte (s : SpiSystem τ) : Option (SpiSystem τ) :=
  match s.regs.txd with
  | [] => none
  | data :: rest =>
      if s.regs.rxd.length < 2 then
        some { s with
          regs := { s.regs with
            txd := rest
            rxd := s.regs.rxd ++ [(slave.exchange s.slave data).1]
            ready := s.regs.ready || s.regs.rxd.isEmpty }
          slave := (slave.exchange s.slave data).2 }
      else none

/-- `irq_handler_spi` up to the read of RXD; a byte behind it moves up and raises READY. -/
def irqEnter (s : SpiSystem τ) : SpiSystem τ :=
  { s with
    rxData := some (s.regs.rxd.headD 0)
    regs := { s.regs with rxd := s.regs.rxd.tail, ready := !s.regs.rxd.tail.isEmpty } }

def irqLeave (rxData : Byte) (s : SpiSystem τ) : SpiSystem τ :=
  let (more, s) := transferByte rxData { s with rxData := none }
  if more then s else finishTransfer slave s

def spiStep : Step (SpiSystem τ) SpiEvent RetCode
  | s, .shift => (shiftByte slave s).map (RetCode.success, ·)
  | s, .irqEnter =>
      if s.regs.intReady ∧ s.regs.ready ∧ s.rxData = none then some (.success, irqEnter s) else none
  | s, .irqLeave => s.rxData.map fun rxData => (.success, irqLeave slave rxData s)
  | s, .transfer desc => if s.rxData = none then some (nrfDrvSpiXfer slave desc s) else none
  | s, .abort => some (.success, { s with cb := { s.cb with abort := true } })

/-- `while (!spi_xfer_done);` -/
def waitStep : Step (SpiSystem τ) SpiEvent RetCode := fun s event =>
  if s.spiXferDone then none else spiStep slave s event

end Slave

end Breadcrumb.Driver
