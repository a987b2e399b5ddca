import Breadcrumb.Machine.WrappedClock
import Breadcrumb.Uwb.Freshness

/-!
The millimetre value that `print_distance` converts to `int`, in exact
arithmetic. With the driver's constants the clock-corrected difference of the two
delays is a multiple of `1 / (13 * 2 ^ 27)` device time units, so the range of
`int` is an interval of integers.
-/

namespace Breadcrumb.Uwb

open Breadcrumb.Machine

/-- `13 * 2 ^ 27` times the clock-corrected difference of the round trip of the
initiator and the reply time of the responder, in device time units. -/
def correctedDelay (r : Ranging) : Int :=
  13 * 2 ^ 27 * (signedDiff 32 r.respRxTs r.pollTxTs - signedDiff 32 r.respTxTs r.pollRxTs) -
    signedDiff 32 r.respTxTs r.pollRxTs * r.carrierIntegrator

/-- Metres for one unit of `correctedDelay`. -/
def metresPerUnit : ℚ := 95032980330777 / 74326986037657600000000000

/-- The value can be converted to a 32-bit `int`. -/
def FitsInt (value : ℚ) : Prop := -2147483648 ≤ value ∧ value ≤ 2147483647

/-- The delays of an exchange whose range has a millimetre value. -/
def DelaysFit (r : Ranging) : Prop :=
  -1679584930248936635 ≤ correctedDelay r ∧ correctedDelay r ≤ 1679585465718071074

instance (r : Ranging) : Decidable (DelaysFit r) := inferInstanceAs (Decidable (_ ∧ _))

theorem rtd_eq_signedDiff (r : Ranging) :
    r.rtdInit = signedDiff 32 r.respRxTs r.pollTxTs ∧
      r.rtdResp = signedDiff 32 r.respTxTs r.pollRxTs := by
  simp only [Ranging.rtdInit, Ranging.rtdResp, signedDiff, BitVec.setWidth_eq, and_self]

theorem distance_eq (r : Ranging) :
    r.distance ℚ = correctedDelay r * metresPerUnit - 34282 / 100000 := by
  obtain ⟨hinit, hresp⟩ := rtd_eq_signedDiff r
  have hformula : r.distance ℚ = ((r.rtdInit : ℚ) - r.rtdResp * (1 - r.carrierIntegrator *
      (998400000 / 2 / 1024 / 131072 * (-1000000 / 6489600000) / 1000000))) / 2 *
      (1 / 499200000 / 128) * ((299702547 : ℤ) : ℚ) * (951273 / 1000000) - 34282 / 100000 := rfl
  rw [hformula, hinit, hresp, correctedDelay, metresPerUnit]
  push_cast
  ring

theorem fitsInt_iff (r : Ranging) : FitsInt (1000 * r.distance ℚ) ↔ DelaysFit r := by
  rw [distance_eq, FitsInt, DelaysFit, metresPerUnit]
  constructor
  · rintro ⟨hlow, hhigh⟩
    constructor
    · by_contra hbelow
      have hle : correctedDelay r ≤ -1679584930248936636 := by omega
      have hcast : (correctedDelay r : ℚ) ≤ -1679584930248936636 := by exact_mod_cast hle
      linarith
    · by_contra habove
      have hle : 1679585465718071075 ≤ correctedDelay r := by omega
      have hcast : (1679585465718071075 : ℚ) ≤ correctedDelay r := by exact_mod_cast hle
      linarith
  · rintro ⟨hlow, hhigh⟩
    have hlow' : (-1679584930248936635 : ℚ) ≤ correctedDelay r := by exact_mod_cast hlow
    have hhigh' : (correctedDelay r : ℚ) ≤ 1679585465718071074 := by exact_mod_cast hhigh
    constructor
    · linarith
    · linarith

theorem signedDiff_range (later earlier : Word32) :
    -2 ^ 31 ≤ signedDiff 32 later earlier ∧ signedDiff 32 later earlier < 2 ^ 31 :=
  ⟨(signedDiff_residue 32 later earlier).low, (signedDiff_residue 32 later earlier).high⟩

/-- Delays that differ by at most 961000000 device time units, 15 ms, fit whatever
the integrator reads. -/
theorem delaysFit_of_close {r : Ranging} {carrierInt : BitVec 24}
    (hcarrier : r.carrierIntegrator = dwtReadcarrierintegrator carrierInt)
    (hclose : |signedDiff 32 r.respRxTs r.pollTxTs - signedDiff 32 r.respTxTs r.pollRxTs| ≤
      961000000) : DelaysFit r := by
  obtain ⟨hlow, hhigh⟩ := dwtReadcarrierintegrator_range carrierInt
  obtain ⟨hrespLow, hrespHigh⟩ := signedDiff_range r.respTxTs r.pollRxTs
  rw [← hcarrier] at hlow hhigh
  have hdrift : |signedDiff 32 r.respTxTs r.pollRxTs * r.carrierIntegrator| ≤ 2 ^ 31 * 2 ^ 20 := by
    rw [abs_mul]
    apply mul_le_mul
    · rw [abs_le]
      omega
    · rw [abs_le]
      omega
    · exact abs_nonneg _
    · norm_num
  rw [abs_le] at hclose hdrift
  unfold DelaysFit correctedDelay
  omega

theorem report_of_checkPassed {rs : List Radio} {c : RangingCall ℚ}
    (hc : c ∈ calls ssInitRun (powerOn : Initiator ℚ) rs) (hpassed : CheckPassed c) :
    c.output.report = some (reportOf (polledNode c) ((checkedRanging c).distance ℚ)) := by
  cases call_outcome hc with
  | silent quiet _ _ => exact absurd hpassed.1 quiet
  | rejected _ failed _ _ => exact absurd hpassed failed
  | ranged _ _ _ report => exact report

/-- In every run, the millimetre value of an accepted response can be converted
exactly if the delays fit. -/
theorem millimetres_fit_iff (rs : List Radio) :
    ∀ c ∈ calls ssInitRun (powerOn : Initiator ℚ) rs, CheckPassed c →
      ∃ report, c.output.report = some report ∧
        (FitsInt (1000 * report.distance) ↔ DelaysFit (checkedRanging c)) := by
  intro c hc hpassed
  exact ⟨_, report_of_checkPassed hc hpassed, fitsInt_iff (checkedRanging c)⟩

/-- Pumpernickel answers with blank timestamps, `elapsed` units behind a poll sent
at zero. -/
def blankReply (elapsed : Nat) : Radio :=
  { responseRadio 1 with txTime := 0, rxTime := BitVec.ofNat 40 elapsed }

/-- A blank reply after `2 ^ 30` units, 17 ms, comes out at more than two thousand
kilometres. -/
theorem millimetres_blankReply :
    ¬ ∀ rs, ∀ c ∈ calls ssInitRun (powerOn : Initiator ℚ) rs, CheckPassed c →
      ∀ report ∈ c.output.report, FitsInt (1000 * report.distance) := by
  intro hfits
  obtain ⟨c, hc, hpassed, hnot⟩ := exists_of_any
    (fun c => CheckPassed c ∧ ¬ DelaysFit (checkedRanging c))
    (calls ssInitRun (powerOn : Initiator ℚ) [blankReply (2 ^ 30)])[0]? (by decide +kernel)
  have hmem := List.mem_of_getElem? hc
  have hvalue := hfits _ c hmem hpassed _ (report_of_checkPassed hmem hpassed)
  exact hnot ((fitsInt_iff (checkedRanging c)).mp hvalue)

/-- A reply within 15 ms fits, one after 17 ms does not. -/
theorem millimetres_fit_iff_blankReply :
    (∃ c report, (calls ssInitRun (powerOn : Initiator ℚ) [blankReply 961000000])[0]? = some c ∧
      c.output.report = some report ∧ FitsInt (1000 * report.distance)) ∧
    ∃ c report, (calls ssInitRun (powerOn : Initiator ℚ) [blankReply (2 ^ 30)])[0]? = some c ∧
      c.output.report = some report ∧ ¬ FitsInt (1000 * report.distance) := by
  obtain ⟨near, hc, hpassed, hfit⟩ := exists_of_any
    (fun c => CheckPassed c ∧ DelaysFit (checkedRanging c))
    (calls ssInitRun (powerOn : Initiator ℚ) [blankReply 961000000])[0]? (by decide +kernel)
  obtain ⟨far, hc', hpassed', hnot⟩ := exists_of_any
    (fun c => CheckPassed c ∧ ¬ DelaysFit (checkedRanging c))
    (calls ssInitRun (powerOn : Initiator ℚ) [blankReply (2 ^ 30)])[0]? (by decide +kernel)
  obtain ⟨report, hreport, hiff⟩ :=
    millimetres_fit_iff _ near (List.mem_of_getElem? hc) hpassed
  obtain ⟨report', hreport', hiff'⟩ :=
    millimetres_fit_iff _ far (List.mem_of_getElem? hc') hpassed'
  exact ⟨⟨near, report, hc, hreport, hiff.mpr hfit⟩,
    ⟨far, report', hc', hreport', fun hfits => hnot (hiff'.mp hfits)⟩⟩

end Breadcrumb.Uwb
