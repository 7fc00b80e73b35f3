import ElectroSync.Database.Types

/-! # Portal records (`nesco/dto/nesco-response.dto.ts`, `nesco/nesco.service.ts`) -/

namespace ElectroSync

/-- One row of the portal's recharge report. -/
structure NescoRechargeDto where
  sn : ℚ
  token : String
  meterRentAmount : ℚ
  demandChargeAmount : ℚ
  vatAmount : ℚ
  concessionAmount : ℚ
  rechargeAmount : ℚ
  usableAmount : ℚ
  rechargeMethod : String
  /-- Unix epoch seconds. -/
  rechargedDate : ℤ
  /-- The portal status, in lower case. -/
  rechargeStatus : String
  deriving DecidableEq

/-- Balance and recharge history, read from one fetch of the same page. -/
structure NescoSnapshot where
  balance : ℚ
  /-- The settlement stamp in Unix epoch seconds, when the portal printed one. -/
  balanceAsOf : Option ℤ
  recharges : List NescoRechargeDto
  deriving DecidableEq

end ElectroSync
