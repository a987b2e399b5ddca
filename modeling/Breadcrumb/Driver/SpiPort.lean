import Breadcrumb.Machine.Buffer
import Breadcrumb.Driver.SpiTransfer

/-!
`readfromspi` and `writetospi` of `port_platform.c`. Both put header and body
into one buffer, hand it over with its length and spin until the transfer is
done. The length goes through parameters of type `uint8_t`.
-/

namespace Breadcrumb.Driver

open Breadcrumb.Machine

section Slave

variable {τ : Type} (slave : Slave Byte τ)

/-- `nrf_drv_spi_transfer(&spi, idatabuf, idatalength, itempbuf, idatalength)` and the loop
behind it. -/
def spiTransfer (events : List SpiEvent) (idatabuf : List Byte) (s : SpiSystem τ) :
    Option ((Nat → Byte) × SpiSystem τ) :=
  let idatalength := BitVec.ofNat 8 idatabuf.length
  let desc : XferDesc := ⟨pointer idatabuf, idatalength, fun _ => 0, idatalength⟩
  let s := endState (waitStep slave)
    (nrfDrvSpiXfer slave desc { s with spiXferDone := false }).2 events
  if s.spiXferDone then some (s.cb.done.pRxBuffer, s) else none

/-- `none` as long as the program spins. -/
def readfromspi (events : List SpiEvent) (headerBuffer : List Byte) (readlength : Nat)
    (s : SpiSystem τ) : Option (List Byte × SpiSystem τ) :=
  (spiTransfer slave events (headerBuffer ++ List.replicate readlength 0) s).map fun (itempbuf, s) =>
    ((List.range readlength).map fun i => itempbuf (headerBuffer.length + i), s)

def writetospi (events : List SpiEvent) (headerBuffer bodyBuffer : List Byte)
    (s : SpiSystem τ) : Option (SpiSystem τ) :=
  (spiTransfer slave events (headerBuffer ++ bodyBuffer) s).map (·.2)

/-- What goes out for a buffer: a multiple of 256 bytes is taken for none, and a transfer of
no bytes sends one over-run character. -/
def sentBytes (orc : Byte) (idatabuf : List Byte) : List Byte :=
  if idatabuf.length % 256 = 0 then [orc] else idatabuf.take (idatabuf.length % 256)

theorem wire_eq_sentBytes (orc : Byte) (idatabuf : List Byte) (rx : Nat → Byte) :
    wire ⟨pointer idatabuf, BitVec.ofNat 8 idatabuf.length, rx, BitVec.ofNat 8 idatabuf.length⟩
      orc = sentBytes orc idatabuf := by
  have hlength : wireLength ⟨pointer idatabuf, BitVec.ofNat 8 idatabuf.length, rx,
      BitVec.ofNat 8 idatabuf.length⟩ = max 1 (idatabuf.length % 256) := by
    simp [wireLength]
  unfold sentBytes
  split
  next hzero =>
    rw [wire, hlength, hzero]
    simp [wireByte, hzero]
  next hpos =>
    apply List.ext_getElem
    · rw [wire_length, hlength, List.length_take]
      omega
    · intro i hi hi'
      have hlt : i < idatabuf.length % 256 := by
        rw [List.length_take] at hi'
        omega
      rw [wire_getElem, List.getElem_take, wireByte]
      have hcount : i < (BitVec.ofNat 8 idatabuf.length).toNat := by
        rw [BitVec.toNat_ofNat]
        exact hlt
      rw [if_pos hcount]
      exact pointer_of_lt (by omega)

/-- A transfer that ends has sent what the low byte of the length says and received as much;
the rest of the receive buffer keeps its zeros. -/
theorem spiTransfer_eq_some {events : List SpiEvent} (hevents : .abort ∉ events)
    {idatabuf : List Byte} {s s' : SpiSystem τ} {itempbuf : Nat → Byte} (hidle : Idle s)
    (h : spiTransfer slave events idatabuf s = some (itempbuf, s')) :
    let t := slave.select s.slave
    Idle s' ∧ s'.cb.orc = s.cb.orc ∧
      s'.slave = slave.deselect (slave.behind t (sentBytes s.cb.orc idatabuf)) ∧
      ∀ i, itempbuf i =
        if i < idatabuf.length % 256 then
          (slave.answers t (sentBytes s.cb.orc idatabuf)).getD i 0
        else 0 := by
  have hidle' : Idle { s with spiXferDone := false } :=
    ⟨hidle.inProgress, hidle.selected, hidle.rxData, hidle.txd, hidle.rxd⟩
  unfold spiTransfer at h
  dsimp only at h
  generalize hdesc : (⟨pointer idatabuf, BitVec.ofNat 8 idatabuf.length, fun _ => 0,
    BitVec.ofNat 8 idatabuf.length⟩ : XferDesc) = desc at h
  have hwire : wire desc s.cb.orc = sentBytes s.cb.orc idatabuf := by
    rw [← hdesc, wire_eq_sentBytes]
  obtain ⟨-, hstart, habort, -⟩ := hidle'.start slave rfl desc
  obtain ⟨hgoing | hdone, -⟩ := hstart.wait habort hevents
  · rw [if_neg (by rw [hgoing.waiting]; exact Bool.false_ne_true)] at h
    cases h
  · rw [if_pos hdone.done] at h
    cases h
    have htake : (wire desc s.cb.orc).take (wireLength desc) = sentBytes s.cb.orc idatabuf := by
      rw [← hwire, List.take_of_length_le (wire_length desc s.cb.orc).le]
    refine ⟨hdone.idle, hdone.overrun, by rw [hdone.atSlave]; exact htake ▸ rfl, fun i => ?_⟩
    rw [hdone.memory]
    change receive desc _ (slave.answers _ ((wire desc s.cb.orc).take _)) i = _
    have hmin : min (wireLength desc) desc.rxLength.toNat = idatabuf.length % 256 := by
      rw [← hdesc]
      simp [wireLength]
    rw [htake, receive, hmin, ← hdesc]

/-- The wait loop of an idle port has a way to its end. -/
theorem spiTransfer_total (idatabuf : List Byte) {s : SpiSystem τ} (hidle : Idle s) :
    ∃ events : List SpiEvent, .abort ∉ events ∧
      (spiTransfer slave events idatabuf s).isSome = true := by
  have hidle' : Idle { s with spiXferDone := false } :=
    ⟨hidle.inProgress, hidle.selected, hidle.rxData, hidle.txd, hidle.rxd⟩
  obtain ⟨-, hstart, habort, -⟩ := hidle'.start slave rfl
    ⟨pointer idatabuf, BitVec.ofNat 8 idatabuf.length, fun _ => 0,
      BitVec.ofNat 8 idatabuf.length⟩
  obtain ⟨events, hevents, hdone⟩ := hstart.finishes habort
  refine ⟨events, hevents, ?_⟩
  unfold spiTransfer
  dsimp only
  rw [if_pos hdone]
  rfl

variable {slave} {events : List SpiEvent} {header body values : List Byte} {n : Nat}
  {s s' : SpiSystem τ}

theorem writetospi_total (slave : Slave Byte τ) (header body : List Byte) (hidle : Idle s) :
    ∃ events s', .abort ∉ events ∧ writetospi slave events header body s = some s' := by
  obtain ⟨events, hevents, hsome⟩ := spiTransfer_total slave (header ++ body) hidle
  obtain ⟨⟨itempbuf, s'⟩, htransfer⟩ := Option.isSome_iff_exists.mp hsome
  exact ⟨events, s', hevents, by rw [writetospi, htransfer]; rfl⟩

theorem readfromspi_total (slave : Slave Byte τ) (header : List Byte) (n : Nat) (hidle : Idle s) :
    ∃ events values s', .abort ∉ events ∧
      readfromspi slave events header n s = some (values, s') := by
  obtain ⟨events, hevents, hsome⟩ :=
    spiTransfer_total slave (header ++ List.replicate n 0) hidle
  obtain ⟨⟨itempbuf, s'⟩, htransfer⟩ := Option.isSome_iff_exists.mp hsome
  exact ⟨events, _, s', hevents, by rw [readfromspi, htransfer]; rfl⟩

theorem writetospi_eq_some (hevents : .abort ∉ events) (hidle : Idle s)
    (h : writetospi slave events header body s = some s') :
    Idle s' ∧ s'.cb.orc = s.cb.orc ∧ s'.slave = slave.deselect
      (slave.behind (slave.select s.slave) (sentBytes s.cb.orc (header ++ body))) := by
  obtain ⟨⟨itempbuf, s₁⟩, htransfer, rfl⟩ := Option.map_eq_some_iff.mp h
  obtain ⟨hidle', horc, hslave, -⟩ := spiTransfer_eq_some slave hevents hidle htransfer
  exact ⟨hidle', horc, hslave⟩

theorem readfromspi_eq_some (hevents : .abort ∉ events) (hidle : Idle s)
    (h : readfromspi slave events header n s = some (values, s')) :
    let idatabuf := header ++ List.replicate n 0
    let t := slave.select s.slave
    Idle s' ∧ s'.cb.orc = s.cb.orc ∧
      s'.slave = slave.deselect (slave.behind t (sentBytes s.cb.orc idatabuf)) ∧
      values = (List.range n).map fun i =>
        if header.length + i < idatabuf.length % 256 then
          (slave.answers t (sentBytes s.cb.orc idatabuf)).getD (header.length + i) 0
        else 0 := by
  obtain ⟨⟨itempbuf, s₁⟩, htransfer, hmap⟩ := Option.map_eq_some_iff.mp h
  obtain ⟨hidle', horc, hslave, hbuffer⟩ := spiTransfer_eq_some slave hevents hidle htransfer
  cases hmap
  refine ⟨hidle', horc, hslave, ?_⟩
  simp only [hbuffer]

/-- What fits the length parameter goes out as it is. -/
theorem sentBytes_of_le {orc : Byte} {idatabuf : List Byte} (hpos : idatabuf ≠ [])
    (hle : idatabuf.length ≤ 255) : sentBytes orc idatabuf = idatabuf := by
  have hlength := List.length_pos_of_ne_nil hpos
  rw [sentBytes, Nat.mod_eq_of_lt (by omega), if_neg (by omega), List.take_length]

/-- What does not fit loses at least 255 bytes. -/
theorem sentBytes_length_lt (orc : Byte) (idatabuf : List Byte) (hlt : 255 < idatabuf.length) :
    (sentBytes orc idatabuf).length < idatabuf.length := by
  have hmod := Nat.mod_lt idatabuf.length (by omega : 0 < 256)
  unfold sentBytes
  split
  · rw [List.length_singleton]
    omega
  · rw [List.length_take]
    omega

theorem readfromspi_of_le (hevents : .abort ∉ events) (hidle : Idle s) (hheader : header ≠ [])
    (hle : header.length + n ≤ 255)
    (h : readfromspi slave events header n s = some (values, s')) :
    let idatabuf := header ++ List.replicate n 0
    let t := slave.select s.slave
    Idle s' ∧ s'.cb.orc = s.cb.orc ∧ s'.slave = slave.deselect (slave.behind t idatabuf) ∧
      values = (slave.answers t idatabuf).drop header.length := by
  have hlength : (header ++ List.replicate n (0 : Byte)).length = header.length + n := by
    rw [List.length_append, List.length_replicate]
  obtain ⟨hidle', horc, hslave, hvalues⟩ := readfromspi_eq_some hevents hidle h
  rw [sentBytes_of_le (by simp [hheader]) (by omega)] at hslave hvalues
  refine ⟨hidle', horc, hslave, ?_⟩
  rw [hvalues]
  apply List.ext_getElem
  · rw [List.length_drop, Slave.answers_length, hlength]
    simp
  · intro i hi _
    have hi' : i < n := by simpa using hi
    rw [List.getElem_map, List.getElem_range, List.getElem_drop,
      if_pos (by rw [hlength]; omega), List.getD_eq_getElem _ _ (by simp; omega)]

end Slave

/-- A slave that counts what it is sent. -/
def countingSlave : Slave Byte Nat := ⟨fun t => t, fun t _ => (0, t + 1), fun t => t⟩

theorem countingSlave_behind (t : Nat) (data : List Byte) :
    countingSlave.behind t data = t + data.length := by
  induction data generalizing t with
  | nil => rfl
  | cons byte data ih =>
      rw [List.length_cons, Nat.add_comm data.length, ← Nat.add_assoc]
      exact ih (t + 1)

theorem countingSlave_length {t : Nat} {data sent : List Byte}
    (h : countingSlave.deselect (countingSlave.behind (countingSlave.select t) data) =
      countingSlave.deselect (countingSlave.behind (countingSlave.select t) sent)) :
    sent.length = data.length := by
  rw [countingSlave_behind, countingSlave_behind] at h
  exact (Nat.add_left_cancel h).symm

theorem writetospi_exact_iff (header body : List Byte) (hheader : header ≠ []) :
    (∀ (τ : Type) (slave : Slave Byte τ) (events : List SpiEvent) (s s' : SpiSystem τ),
      .abort ∉ events → Idle s → writetospi slave events header body s = some s' →
      s'.slave = slave.deselect (slave.behind (slave.select s.slave) (header ++ body))) ↔
    header.length + body.length ≤ 255 := by
  refine ⟨fun hall => ?_, fun hle τ slave events s s' hevents hidle h => ?_⟩
  · obtain ⟨events, s', hevents, hwrite⟩ :=
      writetospi_total countingSlave header body (idlePort_idle 0)
    have hexact := hall Nat countingSlave events _ s' hevents (idlePort_idle 0) hwrite
    obtain ⟨-, -, hsent⟩ := writetospi_eq_some hevents (idlePort_idle 0) hwrite
    have hlength := countingSlave_length (hexact.symm.trans hsent)
    apply Nat.le_of_not_lt
    intro hlt
    have := sentBytes_length_lt (idlePort 0).cb.orc (header ++ body)
      (by rw [List.length_append]; exact hlt)
    omega
  · obtain ⟨-, -, hslave⟩ := writetospi_eq_some hevents hidle h
    rw [hslave, sentBytes_of_le (by simp [hheader]) (by rw [List.length_append]; exact hle)]

theorem readfromspi_exact_iff (header : List Byte) (n : Nat) (hheader : header ≠ []) :
    (∀ (τ : Type) (slave : Slave Byte τ) (events : List SpiEvent) (s s' : SpiSystem τ)
      (values : List Byte), .abort ∉ events → Idle s →
      readfromspi slave events header n s = some (values, s') →
      let idatabuf := header ++ List.replicate n 0
      s'.slave = slave.deselect (slave.behind (slave.select s.slave) idatabuf) ∧
        values = (slave.answers (slave.select s.slave) idatabuf).drop header.length) ↔
    header.length + n ≤ 255 := by
  refine ⟨fun hall => ?_, fun hle τ slave events s s' values hevents hidle h => ?_⟩
  · obtain ⟨events, values, s', hevents, hread⟩ :=
      readfromspi_total countingSlave header n (idlePort_idle 0)
    have hexact := (hall Nat countingSlave events _ s' _ hevents (idlePort_idle 0) hread).1
    obtain ⟨-, -, hsent, -⟩ := readfromspi_eq_some hevents (idlePort_idle 0) hread
    have hlength := countingSlave_length (hexact.symm.trans hsent)
    apply Nat.le_of_not_lt
    intro hlt
    have := sentBytes_length_lt (idlePort 0).cb.orc (header ++ List.replicate n 0)
      (by simpa using hlt)
    omega
  · obtain ⟨-, -, hslave, hvalues⟩ := readfromspi_of_le hevents hidle hheader hle h
    exact ⟨hslave, hvalues⟩

/-- `writetospi` delivers header and body, whatever the slave and the order of events, exactly
if together they are at most 255 bytes; and so with `readfromspi` and what it returns. Beyond that
the low byte of the length decides what goes out. Both have a way to their end at any length. -/
theorem port_exact_iff (header body : List Byte) (n : Nat) (hheader : header ≠ []) :
    ((∀ (τ : Type) (slave : Slave Byte τ) (events : List SpiEvent) (s s' : SpiSystem τ),
        .abort ∉ events → Idle s → writetospi slave events header body s = some s' →
        s'.slave = slave.deselect (slave.behind (slave.select s.slave) (header ++ body))) ↔
      header.length + body.length ≤ 255) ∧
    ((∀ (τ : Type) (slave : Slave Byte τ) (events : List SpiEvent) (s s' : SpiSystem τ)
        (values : List Byte), .abort ∉ events → Idle s →
        readfromspi slave events header n s = some (values, s') →
        let idatabuf := header ++ List.replicate n 0
        s'.slave = slave.deselect (slave.behind (slave.select s.slave) idatabuf) ∧
          values = (slave.answers (slave.select s.slave) idatabuf).drop header.length) ↔
      header.length + n ≤ 255) ∧
    ∀ (τ : Type) (slave : Slave Byte τ) (s : SpiSystem τ), Idle s →
      (∃ events s', .abort ∉ events ∧ writetospi slave events header body s = some s') ∧
      (∃ events values s', .abort ∉ events ∧
        readfromspi slave events header n s = some (values, s')) ∧
      (∀ events s', .abort ∉ events → writetospi slave events header body s = some s' →
        s'.slave = slave.deselect
          (slave.behind (slave.select s.slave) (sentBytes s.cb.orc (header ++ body)))) ∧
      ∀ events values s', .abort ∉ events →
        readfromspi slave events header n s = some (values, s') →
        s'.slave = slave.deselect (slave.behind (slave.select s.slave)
          (sentBytes s.cb.orc (header ++ List.replicate n 0))) := by
  refine ⟨writetospi_exact_iff header body hheader, readfromspi_exact_iff header n hheader,
    fun τ slave s hidle => ⟨writetospi_total slave header body hidle,
      readfromspi_total slave header n hidle, fun events s' hevents hwrite => ?_,
      fun events values s' hevents hread => ?_⟩⟩
  · obtain ⟨-, -, hslave⟩ := writetospi_eq_some hevents hidle hwrite
    exact hslave
  · obtain ⟨-, -, hslave, -⟩ := readfromspi_eq_some hevents hidle hread
    exact hslave

/-- A body of 300 bytes does not arrive. -/
theorem port_exact_iff_long :
    ¬ ∀ (τ : Type) (slave : Slave Byte τ) (events : List SpiEvent) (s s' : SpiSystem τ),
      .abort ∉ events → Idle s →
      writetospi slave events [0x89] (List.replicate 300 0) s = some s' →
      s'.slave = slave.deselect
        (slave.behind (slave.select s.slave) ([0x89] ++ List.replicate 300 0)) := by
  intro hall
  have hle := (port_exact_iff [0x89] (List.replicate 300 0) 0 (by decide)).1.mp hall
  rw [List.length_replicate] at hle
  exact absurd hle (by decide)

end Breadcrumb.Driver
