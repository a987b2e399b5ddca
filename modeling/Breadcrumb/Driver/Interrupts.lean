import Breadcrumb.Driver.ConfigurationRuns

/-!
The interrupt service routine of the driver, between the calls. Its callbacks
may send, receive and stop; what is set stays as the calls have set it.
-/

namespace Breadcrumb.Driver

open Breadcrumb.Machine Breadcrumb.Machine.RegisterFile
open Breadcrumb.Uwb (sysStatusRxfcg sysStatusTxfrs sysStatusAllRxTo sysStatusAllRxErr sysStatusId
  sysStatusRxrfto sysCtrlId)

section Chip

variable {δ : Type} {dev : Device RegAddr Byte δ} {registers : δ → RegisterFile} {e : Expected}

theorem Meets.congr {l : DwtLocalData} {mem mem' : RegisterFile} (hmeets : Meets e l mem)
    (h : ∀ b, Covers deviceRanges b → mem' b = mem b) : Meets e l mem' where
  coherent := hmeets.coherent.congr fun b hb => (h b (hb.mono settingRanges_device)).symm
  configured config hconfig := (hmeets.configured config hconfig).congr h
  settings f v hv :=
    (Setting.value_congr (fun b hb => h b (hb.mono settingRanges_device)) f).trans
      (hmeets.settings f v hv)

theorem Meets.wait4resp {l : DwtLocalData} {mem : RegisterFile} (hmeets : Meets e l mem)
    (wait : Byte) : Meets e { l with wait4resp := wait } mem where
  coherent := ⟨hmeets.coherent.sysCFGreg, hmeets.coherent.dblbuffon, hmeets.coherent.longFrames⟩
  configured config hconfig :=
    have hconf := hmeets.configured config hconfig
    ⟨hconf.ofRegisters, hconf.tuned, hconf.rxm110k, hconf.txFctrl, hconf.txFCTRL⟩
  settings := hmeets.settings

end Chip

end Breadcrumb.Driver
