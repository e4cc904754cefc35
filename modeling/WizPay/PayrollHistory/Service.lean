import WizPay.Backend.Address
import WizPay.Backend.Number
import WizPay.Backend.NumberText
import WizPay.Backend.Service

/-!
# The payroll history of a wallet

`getWalletPayrollHistory` asks a node for the batch events of a wallet, chunk by chunk, and
for the receipt of each event's transaction. The transfers in a receipt that the payroll
contract made are what it lists as payments of employees.
-/

namespace WizPay.PayrollHistory

open Backend

def PAYROLL_HISTORY_FROM_BLOCK : ℕ := 35790000

def PAYROLL_HISTORY_CHUNK_SIZE : ℕ := 9999

def DEFAULT_WIZPAY_ADDRESS : String := "0x77AC7Cb6507D404b5530fC03e3D39BAaEdE10C34"

def USDC_ADDRESS : String := "0x3600000000000000000000000000000000000000"

def EURC_ADDRESS : String := "0xbEf5f6d51CB62b58e6A8f77868681825C6fe21c1"

/-! ## What the node answers -/

/-- A log as the node gives it; `body` are its topics and data. -/
structure RpcLogResult (Body : Type) where
  address : String
  body : Body
  blockNumber : Option ℕ
  transactionHash : Option String

/-- `decodeEventLog` of a `BatchPaymentRouted`. -/
structure BatchArgs where
  tokenIn : String
  tokenOut : String
  totalAmountIn : ℕ
  totalAmountOut : ℕ
  totalFees : ℕ
  recipientCount : ℕ
  referenceId : String

/-- `decodeEventLog` of a `Transfer`. -/
structure TransferArgs where
  source : String
  target : String
  value : ℕ

/-- The two decoders; `none` where they throw. -/
structure Decoders (Body : Type) where
  batch : Body → Option BatchArgs
  transfer : Body → Option TransferArgs

/-- The answers of the node to one request; `none` where a call fails. The receipt is asked
for once for each log of the wallet's batches. -/
structure Node (Body : Type) where
  getBlockNumber : Option ℕ
  getLogs (address sender : String) (fromBlock toBlock : ℕ) : Option (List (RpcLogResult Body))
  getTimestamp (blockNumber : ℕ) : Option ℕ
  getReceipt (log : RpcLogResult Body) : Option (Option (List (RpcLogResult Body)))

structure HistoryConfig where
  contractAddress : Option String
  wizpayAddress : Option String

/-! ## What the service returns -/

structure TaskPayrollHistoryEvent where
  txHash : String
  blockNumber : ℕ
  timestampMs : ℕ
  tokenIn : String
  tokenOut : String
  totalAmountIn : String
  totalAmountOut : String
  totalFees : String
  recipientCount : ℕ
  referenceId : String
deriving DecidableEq

structure TaskEmployeeBreakdownItem where
  taskId : String
  date : ℕ
  employee : String
  status : String
  amount : String
  tokenSymbol : String
  tokenDecimals : ℕ
  txHash : String
deriving DecidableEq

structure TaskPayrollHistoryResponse where
  walletAddress : String
  events : List TaskPayrollHistoryEvent
  employeePayments : List TaskEmployeeBreakdownItem

section Code

variable {Body : Type} (runtime : Runtime) (decoders : Decoders Body) (node : Node Body)

def unavailable : ServiceError := .error "RPC request failed."

/-- What viem throws on a text that is no address. -/
def invalidAddress : ServiceError := .error "Address is invalid."

def checksummed (address : String) : Except ServiceError String :=
  match getAddress runtime address with
  | some address => return address
  | none => throw invalidAddress

def normalizeWalletAddress (walletAddress : Option String) : Except ServiceError String :=
  match walletAddress.map trim with
  | none | some "" => throw (.badRequest "Bad Request" "Query parameter wallet is required.")
  | some wallet =>
      match getAddress runtime wallet with
      | some address => return address
      | none =>
          throw (.badRequest "Bad Request" "Query parameter wallet must be a valid EVM address.")

/-- `value?.trim() || other`. -/
def trimmedOr (value : Option String) (other : String) : String :=
  match value.map trim with
  | none | some "" => other
  | some text => text

/-- The one address whose history is read. -/
def getHistoryAddress (config : HistoryConfig) : Except ServiceError String :=
  checksummed runtime
    (trimmedOr config.contractAddress (trimmedOr config.wizpayAddress DEFAULT_WIZPAY_ADDRESS))

def resolveTokenInfo (tokenAddress : String) : String × ℕ :=
  let normalized := runtime.toLowerCase (trim tokenAddress)
  if normalized = runtime.toLowerCase USDC_ADDRESS then ("USDC", 6)
  else if normalized = runtime.toLowerCase EURC_ADDRESS then ("EURC", 6)
  else ("???", 6)

/-- The chunks from a block on, the last one cut at the current block. -/
def fetchPayrollLogs (address sender : String) (currentBlock fromBlock : ℕ) :
    Except ServiceError (List (RpcLogResult Body)) :=
  if fromBlock ≤ currentBlock then
    let toBlock := min (fromBlock + PAYROLL_HISTORY_CHUNK_SIZE) currentBlock
    match node.getLogs address sender fromBlock toBlock with
    | none => throw unavailable
    | some chunkLogs => do
        let later ← fetchPayrollLogs address sender currentBlock (toBlock + 1)
        return chunkLogs ++ later
  else return []
termination_by currentBlock + 1 - fromBlock
decreasing_by omega

/-- The timestamp of every block of a log, in milliseconds. -/
def resolveBlockTimestamps (rawLogs : List (RpcLogResult Body)) :
    Except ServiceError (List (ℕ × ℕ)) :=
  (rawLogs.filterMap RpcLogResult.blockNumber).mapM fun blockNumber =>
    match node.getTimestamp blockNumber with
    | none => throw unavailable
    | some timestamp => return (blockNumber, toDouble (toDouble timestamp * 1000))

/-- The payment that a log of a receipt stands for. -/
def paymentOf (contractAddress txHash : String) (timestampMs : ℕ) (log : RpcLogResult Body) :
    List TaskEmployeeBreakdownItem :=
  match decoders.transfer log.body with
  | none => []
  | some args =>
      if runtime.toLowerCase args.source ≠ contractAddress then []
      else
        match getAddress runtime args.target with
        | none => []
        | some employee => [{
            taskId := txHash, date := timestampMs, employee, status := "Confirmed"
            amount := toString args.value
            tokenSymbol := (resolveTokenInfo runtime log.address).1
            tokenDecimals := (resolveTokenInfo runtime log.address).2, txHash }]

/-- The row for a batch whose receipt says nothing. -/
def aggregate (txHash tokenIn : String) (timestampMs totalAmountOut : ℕ) :
    TaskEmployeeBreakdownItem where
  taskId := txHash
  date := timestampMs
  employee := "Multiple Recipients"
  status := "Confirmed"
  amount := toString totalAmountOut
  tokenSymbol := (resolveTokenInfo runtime tokenIn).1
  tokenDecimals := (resolveTokenInfo runtime tokenIn).2
  txHash := txHash

/-- The payments that the receipt of a log's transaction shows; none where there is no receipt. -/
def receiptPayments (log : RpcLogResult Body) (txHash : String) (timestampMs : ℕ) :
    List TaskEmployeeBreakdownItem :=
  match node.getReceipt log with
  | some (some receipt) =>
      receipt.flatMap (paymentOf runtime decoders (runtime.toLowerCase log.address) txHash
        timestampMs)
  | _ => []

def resolveEmployeePaymentsForLog (log : RpcLogResult Body) (txHash tokenIn : String)
    (timestampMs totalAmountOut : ℕ) : List TaskEmployeeBreakdownItem :=
  let payments := receiptPayments runtime decoders node log txHash timestampMs
  if payments = [] then [aggregate runtime txHash tokenIn timestampMs totalAmountOut]
  else payments

/-- One turn of the loop over the logs: what it adds to the events and to the payments. -/
def readLog (timestamps : List (ℕ × ℕ)) (log : RpcLogResult Body) :
    Except ServiceError (List TaskPayrollHistoryEvent × List TaskEmployeeBreakdownItem) :=
  match log.transactionHash, log.blockNumber with
  | some txHash, some blockNumber =>
      if txHash = "" then return ([], [])
      else
        match decoders.batch log.body with
        | none => throw (.error "Event log cannot be decoded.")
        | some args => do
            let timestampMs := (timestamps.lookup blockNumber).getD 0
            let tokenIn ← checksummed runtime args.tokenIn
            let tokenOut ← checksummed runtime args.tokenOut
            return ([{
                txHash, blockNumber, timestampMs, tokenIn, tokenOut
                totalAmountIn := toString args.totalAmountIn
                totalAmountOut := toString args.totalAmountOut
                totalFees := toString args.totalFees
                recipientCount := toDouble args.recipientCount
                referenceId := args.referenceId }],
              resolveEmployeePaymentsForLog runtime decoders node log txHash tokenIn timestampMs
                args.totalAmountOut)
  | _, _ => return ([], [])

def getWalletPayrollHistory (config : HistoryConfig) (walletAddress : Option String) :
    Except ServiceError TaskPayrollHistoryResponse := do
  let normalizedWallet ← normalizeWalletAddress runtime walletAddress
  let historyAddress ← getHistoryAddress runtime config
  match node.getBlockNumber with
  | none => throw unavailable
  | some currentBlock =>
      let rawLogs ← fetchPayrollLogs node historyAddress normalizedWallet currentBlock
        PAYROLL_HISTORY_FROM_BLOCK
      let timestamps ← resolveBlockTimestamps node rawLogs
      let rows ← rawLogs.mapM (readLog runtime decoders node timestamps)
      return {
        walletAddress := normalizedWallet
        events := (rows.flatMap Prod.fst).mergeSort fun left right =>
          right.blockNumber ≤ left.blockNumber
        employeePayments := (rows.flatMap Prod.snd).mergeSort fun left right =>
          right.date ≤ left.date }

end Code

end WizPay.PayrollHistory
