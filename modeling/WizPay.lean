import WizPay.Foundation.Revert
import WizPay.Foundation.Registry
import WizPay.Foundation.Ledger
import WizPay.Foundation.Program
import WizPay.Foundation.Runs
import WizPay.Foundation.Interference
import WizPay.Foundation.Milestones
import WizPay.Foundation.Sequence
import WizPay.Foundation.Conditions
import WizPay.Foundation.ReadCommitted
import WizPay.Foundation.Windows
import WizPay.Foundation.Rounding
import WizPay.Foundation.Paging
import WizPay.Foundation.Expressions
import WizPay.Foundation.Ghosts
import WizPay.Evm.Contract
import WizPay.Evm.StandardTokens
import WizPay.Evm.Allowances
import WizPay.Evm.Solvency
import WizPay.Evm.Movements
import WizPay.PayrollMainnet.Replay
import WizPay.PayrollMainnet.SameToken
import WizPay.PayrollMainnet.CrossToken
import WizPay.PayrollMainnet.Allowances
import WizPay.PayrollMainnet.Funded
import WizPay.SwapExecutor.Settlement
import WizPay.SwapExecutor.Allowances
import WizPay.SwapExecutor.Logs
import WizPay.MainnetV2.Contract
import WizPay.MainnetV2.Quote
import WizPay.MainnetV2.Balance
import WizPay.MainnetV2.Logs
import WizPay.Backend.Json
import WizPay.Backend.Text
import WizPay.Backend.Number
import WizPay.Backend.Address
import WizPay.Backend.Routing
import WizPay.Backend.Service
import WizPay.Backend.Conditions
import WizPay.Backend.Windows
import WizPay.Backend.JsonText
import WizPay.Backend.Conversion
import WizPay.Backend.Abi
import WizPay.Backend.Refusals
import WizPay.Backend.Doubles
import WizPay.Backend.NumberText
import WizPay.Backend.Dates
import WizPay.Backend.Base64
import WizPay.Backend.JsonParse
import WizPay.Backend.Uuid
import WizPay.Backend.Decimal
import WizPay.Intents.Store
import WizPay.Intents.Canonical
import WizPay.Intents.Service
import WizPay.Intents.Controller
import WizPay.Intents.Terminal
import WizPay.Intents.Steps
import WizPay.Intents.Digest
import WizPay.Intents.Completion
import WizPay.Intents.Soundness
import WizPay.Intents.Wallet
import WizPay.Intents.Lease
import WizPay.Intents.Acquisition
import WizPay.Intents.Transfers
import WizPay.Payroll.Events
import WizPay.Payroll.Planner
import WizPay.Payroll.Store
import WizPay.Payroll.Receipts
import WizPay.Payroll.Service
import WizPay.Payroll.Digest
import WizPay.Payroll.Batches
import WizPay.Payroll.Approval
import WizPay.Payroll.References
import WizPay.Payroll.Admission
import WizPay.UserSwap.Protocol
import WizPay.UserSwap.Prepared
import WizPay.UserSwap.PayrollQuote
import WizPay.UserSwap.Funding
import WizPay.UserSwap.Convergence
import WizPay.UserSwap.HopFloor
import WizPay.UserSwap.Receipt
import WizPay.UserSwap.Agreement
import WizPay.Invoices.Store
import WizPay.Invoices.Verifier
import WizPay.Invoices.Service
import WizPay.Invoices.Lifecycle
import WizPay.Invoices.Settlement
import WizPay.Invoices.Soundness
import WizPay.Invoices.Neighbours
import WizPay.Bridge.Store
import WizPay.Bridge.Calls
import WizPay.Bridge.Service
import WizPay.Bridge.Message
import WizPay.Bridge.Evidence
import WizPay.Bridge.Creation
import WizPay.Bridge.Fees
import WizPay.Bridge.Verified
import WizPay.Bridge.Accounting
import WizPay.Bridge.Completion
import WizPay.Bridge.Idempotency
import WizPay.Bridge.Quote
import WizPay.Bridge.Neighbours
import WizPay.Bridge.Encoding
import WizPay.Bridge.Pinning
import WizPay.Tasks.Store
import WizPay.Tasks.Service
import WizPay.Tasks.Sessions
import WizPay.Tasks.Reports
import WizPay.Tasks.Counters
import WizPay.Tasks.Transitions
import WizPay.Tasks.Executions
import WizPay.Ans.Handover
import WizPay.Ans.Rent
import WizPay.Ans.Records
import WizPay.Ans.Labels
import WizPay.Ans.Isolation
import WizPay.Deployment.Plan
import WizPay.Deployment.Binding
import WizPay.Activities.List
import WizPay.Activities.Paging
import WizPay.Csv.Preview
import WizPay.Csv.Faithful
import WizPay.PayrollHistory.Chain
import WizPay.PayrollHistory.Service
import WizPay.PayrollHistory.Payments
import WizPay.PayrollHistory.Exact
import WizPay.WalletAuth.Store
import WizPay.WalletAuth.Service
import WizPay.WalletAuth.Soundness
import WizPay.WalletAuth.Login
import WizPay.WalletAuth.Principals
import WizPay.Backend.Outcomes
import WizPay.Intents.Underway
import WizPay.Payroll.Paid
import WizPay.Payroll.Settling
