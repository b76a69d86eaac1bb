import ReceiptPrinting.Escpos.Machine
import ReceiptPrinting.Escpos.Reader
import ReceiptPrinting.Server
import ReceiptPrinting.Proofs.Delivery
import ReceiptPrinting.Proofs.Escpos.Skeleton
import ReceiptPrinting.Proofs.Layout.Shape
import ReceiptPrinting.Proofs.Registry.Entries
import ReceiptPrinting.Proofs.Server.Step
import ReceiptPrinting.Proofs.Server.Order
import ReceiptPrinting.Proofs.Server.Coherence
import ReceiptPrinting.Proofs.Server.Shutdown
import ReceiptPrinting.Proofs.Registry.Accounts
import ReceiptPrinting.Proofs.Registry.Wakeups
import ReceiptPrinting.Proofs.Escpos.Rows
import ReceiptPrinting.Proofs.Layout.Receipt
import ReceiptPrinting.Proofs.Escpos.Styles
import ReceiptPrinting.Proofs.Layout.Styles
import ReceiptPrinting.Proofs.Server.Clients
import ReceiptPrinting.Proofs.Layout.KitchenCopy
import ReceiptPrinting.Proofs.Layout.BodyRows
import ReceiptPrinting.Proofs.Layout.TestPage
import ReceiptPrinting.Proofs.Json.Strings
import ReceiptPrinting.Proofs.Json.Numbers
import ReceiptPrinting.Proofs.Json.Values
import ReceiptPrinting.Proofs.Json.Records
import ReceiptPrinting.Proofs.Messages
import ReceiptPrinting.Proofs.Address
import ReceiptPrinting.Proofs.Validation
import ReceiptPrinting.Proofs.Layout.Figures
import ReceiptPrinting.Proofs.Layout.Total
import ReceiptPrinting.Proofs.Escpos.Framing
import ReceiptPrinting.Proofs.CodePage
import ReceiptPrinting.Proofs.Routing
import ReceiptPrinting.Proofs.Layout.Times
import ReceiptPrinting.Proofs.Address.Forms
import ReceiptPrinting.Proofs.Layout.Ends
import ReceiptPrinting.Proofs.Settings
import ReceiptPrinting.Proofs.Rendering
