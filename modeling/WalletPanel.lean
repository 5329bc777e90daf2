import WalletPanel.App.Session
import WalletPanel.Notice.Board
import WalletPanel.Panel.Description
import WalletPanel.Proofs.App.Clicks
import WalletPanel.Proofs.App.Ledger
import WalletPanel.Proofs.App.Lifetimes
import WalletPanel.Proofs.App.Listings
import WalletPanel.Proofs.App.OffScreen
import WalletPanel.Proofs.App.Painted
import WalletPanel.Proofs.Clipboard.Copies
import WalletPanel.Proofs.Clipboard.Snapshots
import WalletPanel.Proofs.Notice.Readers
import WalletPanel.Proofs.Panel.Alone
import WalletPanel.Proofs.Panel.Keys
import WalletPanel.Proofs.Panel.Redacted
import WalletPanel.Proofs.Panel.Retries
import WalletPanel.Proofs.Panel.Reveals
import WalletPanel.Proofs.Panel.Secrecy
import WalletPanel.Proofs.Panel.Told
import WalletPanel.Proofs.Remote.Backends
import WalletPanel.Proofs.Remote.Failures
import WalletPanel.Proofs.Remote.Requests
import WalletPanel.Proofs.Remote.Routing
import WalletPanel.Proofs.Screen.Controls
import WalletPanel.Proofs.Token.Specs
import WalletPanel.Proofs.Token.Supplies
import WalletPanel.Proofs.Token.Symbols
import WalletPanel.Proofs.Wire.Encodings
import WalletPanel.Proofs.Workflow.Transitions
