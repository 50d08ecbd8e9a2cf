import DeVault.CashAddr.ConvertBits
import DeVault.CashAddr.PolyMod
import DeVault.CashAddr.Codec
import DeVault.CashAddr.Content
import DeVault.CashAddr.Canonical
import DeVault.CashAddr.Separation
import DeVault.Wallet.OrdMap
import DeVault.Wallet.KeyStore
import DeVault.Wallet.Encryption
import DeVault.Wallet.WatchOnly
import DeVault.Wallet.RescanReserver
import DeVault.Wallet.ZapSelectTx
import DeVault.Wallet.Crypter
import DeVault.Rpc.NamedArguments
import DeVault.Rpc.Help
import DeVault.Rpc.Server
import DeVault.Rpc.TypeCheck
import DeVault.Wallet.Serialize
import DeVault.Wallet.OrderPos
import DeVault.Wallet.WalletTx
import DeVault.Wallet.AccountingEntry
import DeVault.Wallet.CreditDebit
import DeVault.Wallet.LoadWallet
import DeVault.Wallet.MasterKey
import DeVault.Wallet.Flush
import DeVault.Wallet.WalletDB
import DeVault.Wallet.AddressBook
import DeVault.Wallet.Zap
