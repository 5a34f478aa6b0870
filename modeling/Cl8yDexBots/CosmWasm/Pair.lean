import Cl8yDexBots.CosmWasm.Std

/-! What a CL8Y pair says about itself. -/

namespace Cl8yDexBots.CosmWasm.Pair

open CosmWasm.Std

inductive AssetInfo where
  | token (contractAddr : String)
  | nativeToken (denom : String)
  deriving DecidableEq

structure Asset where
  info : AssetInfo
  amount : Uint128
  deriving DecidableEq

structure PairInfo where
  assetInfos : Fin 2 → AssetInfo
  contractAddr : String
  deriving DecidableEq

structure PoolResponse where
  assets : Fin 2 → Asset

end Cl8yDexBots.CosmWasm.Pair
