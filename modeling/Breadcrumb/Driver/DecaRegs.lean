import Breadcrumb.Machine.Words

/-!
Register numbers, offsets and bits of `deca_regs.h`, and the tables of
`deca_params_init.c`, as far as the driver functions use them beyond those a
ranging exchange needs.
-/

namespace Breadcrumb.Driver

open Breadcrumb.Machine

def devIdId : Nat := 0x00
def sysCfgId : Nat := 0x04
def rxFwtoId : Nat := 0x0C
def sysMaskId : Nat := 0x0E
def rxFinfoId : Nat := 0x10
def rxBufferId : Nat := 0x11
def rxTimeId : Nat := 0x15
def txTimeId : Nat := 0x17
def txAntdId : Nat := 0x18
def ackRespTId : Nat := 0x1A
def chanCtrlId : Nat := 0x1F
def usrSfdId : Nat := 0x21
def agcCfgStsId : Nat := 0x23
def extSyncId : Nat := 0x24
def drxConfId : Nat := 0x27
def rfConfId : Nat := 0x28
def fsCtrlId : Nat := 0x2B
def aonId : Nat := 0x2C
def otpIfId : Nat := 0x2D
def ldeIfId : Nat := 0x2E

def sysCfgMask : Word32 := 0xF047FFFF
def sysCfgFfe : Word32 := 0x00000001
def sysCfgFfAllEn : Word32 := 0x000001FE
def sysCfgDisDrxb : Word32 := 0x00001000
def sysCfgPhrMode11 : Word32 := 0x00030000
def sysCfgDisStxp : Word32 := 0x00040000
def sysCfgRxm110k : Word32 := 0x00400000
def sysCfgRxwtoe : Word32 := 0x10000000
def sysCfgAutoack : Word32 := 0x40000000

def sysCtrlTxstrt : Byte := 0x02
def sysCtrlTxdlys : Byte := 0x04
def sysCtrlTrxoff : Byte := 0x40
def sysCtrlWait4resp : Byte := 0x80
def sysCtrlRxenab : Word16 := 0x0100
def sysCtrlRxdlye : Word16 := 0x0200
def sysCtrlHrbtOffset : Nat := 3

def ackRespTAckTimOffset : Nat := 3

def sysStatusAat : Word32 := 0x00000008
def sysStatusTxfrb : Word32 := 0x00000010
def sysStatusTxprs : Word32 := 0x00000020
def sysStatusTxphs : Word32 := 0x00000040
def sysStatusRxprd : Word32 := 0x00000100
def sysStatusRxsfdd : Word32 := 0x00000200
def sysStatusLdedone : Word32 := 0x00000400
def sysStatusRxphd : Word32 := 0x00000800
def sysStatusRxdfr : Word32 := 0x00002000
def sysStatusHpdwarn : Word32 := 0x08000000
def sysStatusHsrbp : Word32 := 0x40000000
def sysStatusIcrbp : Word32 := 0x80000000

/-- The 16 high bits of SYS_STATUS: TXPUTE and HPDWARN. -/
def sysStatusTxerr : Word16 := 0x0408

def txFctrlTxbrMask : Word32 := 0x00006000
def txFctrlTxprfMask : Word32 := 0x00030000
def txFctrlTxpsrPeMask : Word32 := 0x003C0000
def txFctrlTxboffsShft : Nat := 22
def txFctrlTrShft : Nat := 15

def pmscCtrl0Offset : Nat := 0x00
def pmscCtrl1Offset : Nat := 0x04
def pmscCtrl0ResetAll : Byte := 0x00
def pmscCtrl0ResetRx : Byte := 0xE0
def pmscCtrl0ResetClear : Byte := 0xF0
def pmscCtrl1PktseqDisable : Word16 := 0x00

def aonWcfgOffset : Nat := 0x00
def aonCtrlOffset : Nat := 0x02
def aonCfg0Offset : Nat := 0x06
def aonCfg1Offset : Nat := 0x0A
def aonCtrlSave : Byte := 0x02
def aonWcfgOnwLldo : Word16 := 0x1000
def aonWcfgOnwLlde : Word16 := 0x0800

def otpAddr : Nat := 0x04
def otpCtrl : Nat := 0x06
def otpRdat : Nat := 0x0A
def otpSf : Nat := 0x12
def otpCtrlOtpread : Byte := 0x02
def otpCtrlOtprden : Byte := 0x01
def otpCtrlLdeload : Word16 := 0x8000
def otpSfLdoKick : Byte := 0x02

def ecCtrlOffset : Nat := 0x00
def ecCtrlPlllck : Byte := 0x04

def fsPllcfgOffset : Nat := 0x07
def fsPlltuneOffset : Nat := 0x0B
def fsXtaltOffset : Nat := 0x0E
def fsXtaltMask : Byte := 0x1F
def fsXtaltMidrange : Byte := 0x10

def ldeCfg1Offset : Nat := 0x0806
def ldeRxantdOffset : Nat := 0x1804
def ldeCfg2Offset : Nat := 0x1806
def ldeRepcOffset : Nat := 0x2804
def ldeParam1 : Byte := 0x60 ||| 13
def ldeParam316 : Word16 := 0x1607
def ldeParam364 : Word16 := 0x0607

def rfRxctrlhOffset : Nat := 0x0B
def rfTxctrlOffset : Nat := 0x0C

def drxTune0bOffset : Nat := 0x02
def drxTune1aOffset : Nat := 0x04
def drxTune1bOffset : Nat := 0x06
def drxTune2Offset : Nat := 0x08
def drxSfdtocOffset : Nat := 0x20
def drxPretocOffset : Nat := 0x24
def drxTune4hOffset : Nat := 0x26
def drxCarrierIntOffset : Nat := 0x28
def drxTune1b110k : Word16 := 0x0064
def drxTune1b850k6m8 : Word16 := 0x0020
def drxTune1b6m8Pre64 : Word16 := 0x0010
def drxTune4hPre64 : Byte := 0x10
def drxTune4hPre128plus : Byte := 0x28

def chanCtrlTxChanMask : Word32 := 0x0000000F
def chanCtrlRxChanMask : Word32 := 0x000000F0
def chanCtrlDwsfd : Word32 := 0x00020000
def chanCtrlRxfprfMask : Word32 := 0x000C0000
def chanCtrlTnssfd : Word32 := 0x00100000
def chanCtrlRnssfd : Word32 := 0x00200000
def chanCtrlTxPcodMask : Word32 := 0x07C00000
def chanCtrlRxPcodMask : Word32 := 0xF8000000

def dwtDeviceId : Word32 := 0xDECA0130
def dwtStartTxImmediate : Byte := 0
def dwtStartTxDelayed : Byte := 1
def dwtResponseExpected : Byte := 2
def dwtStartRxDelayed : Byte := 1
def dwtIdleOnDlyErr : Byte := 2
def dwtNoSyncPtrs : Byte := 4
def dwtLoaducode : Word16 := 0x1
def dwtBr110k : Byte := 0
def dwtBr6m8 : Byte := 2
def dwtPrf16m : Byte := 1
def dwtPrf64m : Byte := 2
def dwtPac8 : Byte := 0
def dwtPac64 : Byte := 3
def dwtPlen64 : Byte := 0x04
def dwtPlen128 : Byte := 0x14
def dwtPlen256 : Byte := 0x24
def dwtPlen512 : Byte := 0x34
def dwtPlen1024 : Byte := 0x08
def dwtPlen1536 : Byte := 0x18
def dwtPlen2048 : Byte := 0x28
def dwtPlen4096 : Byte := 0x0C
def dwtSfdtocDef : Word16 := 0x1041
def dwtPhrmodeStd : Byte := 0x0
def dwtPhrmodeExt : Byte := 0x3

def chanIdx : List Nat := [0, 0, 1, 2, 3, 4, 0, 5]

def txConfig : List Word32 :=
  [0x00005C40, 0x00045CA0, 0x00086CC0, 0x00045C80, 0x001E3FE0, 0x001E7DE0]

def fsPllCfg : List Word32 :=
  [0x09000407, 0x08400508, 0x08401009, 0x08400508, 0x0800041D, 0x0800041D]

def fsPllTune : List Byte := [0x1E, 0x26, 0x56, 0x26, 0xBE, 0xBE]

def rxConfig : List Byte := [0xD8, 0xBC]

def agcConfigLo32 : Word32 := 0x2502A907
def agcConfigTarget : List Word16 := [0x8870, 0x889B]

def dwnsSFDlen : List Byte := [64, 16, 8]

def sftsh : List (List Word16) := [[0x000A, 0x0016], [0x0001, 0x0006], [0x0001, 0x0002]]

def dtune1 : List Word16 := [0x0087, 0x008D]

def digitalBbConfig : List (List Word32) :=
  [[0x311A002D, 0x331A0052, 0x351A009A, 0x371A011D],
    [0x313B006B, 0x333B00BE, 0x353B015E, 0x373B0296]]

/-- There is no preamble code 0. -/
def ldeReplicaCoeff : List Word16 :=
  [0, 0x5998, 0x5998, 0x51EA, 0x428E, 0x451E, 0x2E14, 0x8000, 0x51EA,
    0x28F4, 0x3332, 0x3AE0, 0x3D70, 0x3AE0, 0x35C2, 0x2B84, 0x35C2,
    0x3332, 0x35C2, 0x35C2, 0x47AE, 0x3AE0, 0x3850, 0x30A2, 0x3850]

end Breadcrumb.Driver
