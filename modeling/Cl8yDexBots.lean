import Cl8yDexBots.Foundation.Words
import Cl8yDexBots.CosmWasm.Std
import Cl8yDexBots.MarketGrid.State
import Cl8yDexBots.MarketGrid.Planning
import Cl8yDexBots.MarketGrid.Vault
import Cl8yDexBots.Foundation.ProRata
import Cl8yDexBots.MarketGrid.Runs
import Cl8yDexBots.MarketGrid.DepositFairness
import Cl8yDexBots.MarketGrid.RebalanceLiveness
import Cl8yDexBots.Foundation.StorageMap
import Cl8yDexBots.LimitGrid.State
import Cl8yDexBots.Foundation.Chunks
import Cl8yDexBots.LimitGrid.Orders
import Cl8yDexBots.LimitGrid.Transactions
import Cl8yDexBots.LimitGrid.Effects
import Cl8yDexBots.LimitGrid.EntryEffects
import Cl8yDexBots.LimitGrid.Resolutions
import Cl8yDexBots.LimitGrid.PendingMessages
import Cl8yDexBots.LimitGrid.Deliveries
import Cl8yDexBots.LimitGrid.LedgerInvariant
import Cl8yDexBots.LimitGrid.Solvency
import Cl8yDexBots.LimitGrid.Escrow
import Cl8yDexBots.LimitGrid.OrderBook
import Cl8yDexBots.LimitGrid.Pages
import Cl8yDexBots.LimitGrid.Reconciliation
import Cl8yDexBots.LimitGrid.RetryConvergence
import Cl8yDexBots.LimitGrid.KeeperReward
import Cl8yDexBots.LimitGrid.SyncIndependence
import Cl8yDexBots.LimitGrid.EmergencyPages
import Cl8yDexBots.LimitGrid.PageDelivery
import Cl8yDexBots.LimitGrid.ExitDrain
import Cl8yDexBots.LimitGrid.OpenBook
import Cl8yDexBots.CosmWasm.Cw20Base
import Cl8yDexBots.CosmWasm.TokenLedger
import Cl8yDexBots.Foundation.LastKnown
import Cl8yDexBots.LimitGrid.FeeRates
import Cl8yDexBots.MarketGrid.FeeRates
import Cl8yDexBots.Rebalancer.FeeRates
import Cl8yDexBots.Rebalancer.Liquidity
import Cl8yDexBots.Rebalancer.RebalanceLiveness
import Cl8yDexBots.Vaults.FeeMint
import Cl8yDexBots.Vaults.FeeOutage
import Cl8yDexBots.Foundation.Attempts
import Cl8yDexBots.Foundation.Durable
import Cl8yDexBots.Services.RebalancerKeeper
import Cl8yDexBots.Services.RebalancerKeeperSafety
import Cl8yDexBots.Services.SwapKeeper
import Cl8yDexBots.Services.SwapKeeperSafety
import Cl8yDexBots.SwapVault.Loss
import Cl8yDexBots.Vaults.RebalanceLoss
import Cl8yDexBots.FeeSystem.Collector
import Cl8yDexBots.Foundation.Cursor
import Cl8yDexBots.LimitGrid.CancelledPages
import Cl8yDexBots.MarketGrid.FeeRedemption
import Cl8yDexBots.MarketGrid.OfferAgreement
import Cl8yDexBots.Rebalancer.KeeperAgreement
import Cl8yDexBots.Services.BatchAttempts
import Cl8yDexBots.Services.BlockScanSafety
import Cl8yDexBots.Services.FillAccounting
import Cl8yDexBots.Services.FillDecoding
import Cl8yDexBots.SwapProxy.Contract
import Cl8yDexBots.SwapProxy.DirectSwap
import Cl8yDexBots.LimitGrid.DepositDilution
import Cl8yDexBots.FeeSystem.CollectLedger
import Cl8yDexBots.Rebalancer.BackingPerShare
import Cl8yDexBots.CosmWasm.Coins
import Cl8yDexBots.FeeSystem.EffectiveFees
import Cl8yDexBots.Foundation.EvenCells
import Cl8yDexBots.Foundation.Reentrancy
import Cl8yDexBots.Foundation.Significant
import Cl8yDexBots.LimitGrid.GasBacking
import Cl8yDexBots.LimitGrid.Ladder
import Cl8yDexBots.LimitGrid.OrderStages
import Cl8yDexBots.LimitGrid.SolvencyQuery
import Cl8yDexBots.LimitGrid.SolvencyReport
import Cl8yDexBots.MarketGrid.GridCells
import Cl8yDexBots.MarketGrid.LastCell
import Cl8yDexBots.MarketGrid.PlanSafety
import Cl8yDexBots.Rebalancer.BootstrapLock
import Cl8yDexBots.Services.DecimalText
import Cl8yDexBots.Services.Fingerprints
import Cl8yDexBots.Services.PlanFaithfulness
import Cl8yDexBots.LimitGrid.ManagerRegister
import Cl8yDexBots.Services.StateFileSafety
import Cl8yDexBots.MarketGrid.FullExit
import Cl8yDexBots.Services.DiscoveryCompleteness
