import Whisper.Jvm.Text
import Whisper.Jvm.Base64
import Whisper.Core.Extensions
import Whisper.Core.ByteArrays
import Whisper.Jvm.Arrays
import Whisper.Jvm.Base64Decoder
import Whisper.Jvm.Base64FastPath
import Whisper.Crypto.CanonicalSigning
import Whisper.Crypto.BIP39WordList
import Whisper.Crypto.BIP39
import Whisper.Crypto.HKDF
import Whisper.Crypto.NaCl
import Whisper.Crypto.KeyDerivation
import Whisper.Network.ReconnectPolicy
import Whisper.Network.WsClient
import Whisper.Network.Interleaving
import Whisper.Network.Lifecycle
import Whisper.Network.Inbound
import Whisper.Storage.SecureStorage
import Whisper.Services.AuthService
