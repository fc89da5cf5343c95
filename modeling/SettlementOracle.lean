import SettlementOracle.Checked.Execution
import SettlementOracle.Checked.Search
import SettlementOracle.Checked.Masking
import SettlementOracle.Checked.Decimal
import SettlementOracle.Checked.Text
import SettlementOracle.Settlement.Types
import SettlementOracle.Settlement.Errors
import SettlementOracle.Settlement.Parsing.Request
import SettlementOracle.Settlement.Parsing.Response
import SettlementOracle.Checked.Fields
import SettlementOracle.Checked.Ledger
import SettlementOracle.Checked.Transition
import SettlementOracle.Server.Delivery
import SettlementOracle.Settlement.Capturer
import SettlementOracle.Settlement.CookieIdentity
import SettlementOracle.Settlement.Endpoint
import SettlementOracle.Settlement.PanicFreedom
import SettlementOracle.Settlement.Redaction
import SettlementOracle.Settlement.HiddenBytes
import SettlementOracle.Settlement.Timing
import SettlementOracle.Inventory.AttestTrail
import SettlementOracle.Inventory.CacheSoundness
import SettlementOracle.Inventory.Uniqueness
import SettlementOracle.Server.Capacity
import SettlementOracle.Server.Orphans
import SettlementOracle.Settlement.AssetLists
import SettlementOracle.Settlement.ChainSnapshot
import SettlementOracle.Inventory.Guard
import SettlementOracle.Inventory.CatalogOrder
import SettlementOracle.Inventory.Families
import SettlementOracle.Inventory.AssetSearch
import SettlementOracle.Settlement.Parsing.GzipFormat
import SettlementOracle.Settlement.Arithmetic
import SettlementOracle.Settlement.Scanners
import SettlementOracle.Checked.Progress
import SettlementOracle.Checked.Hex
import SettlementOracle.Checked.Retry
import SettlementOracle.Server.Drain
import SettlementOracle.Server.EndToEnd
import SettlementOracle.Server.MpcTls
import SettlementOracle.Server.MpcTlsCleanup
import SettlementOracle.Server.Proxy
import SettlementOracle.Settlement.RpcClient
import SettlementOracle.Settlement.RpcReplies
import SettlementOracle.Inventory.ProxyPool
import SettlementOracle.Inventory.Provenance
import SettlementOracle.Settlement.ReadCalls
import SettlementOracle.Settlement.ReadRefinement
