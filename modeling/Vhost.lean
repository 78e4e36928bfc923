import Vhost.Lib.LittleEndian
import Vhost.Lib.ByteStream
import Vhost.Lib.StateFrame
import Vhost.Lib.Layout
import Vhost.Lib.Flags
import Vhost.Lib.Segments
import Vhost.User.Error
import Vhost.User.Message
import Vhost.User.Connection
import Vhost.User.SlaveReqHandler
import Vhost.User.Master
import Vhost.User.MasterReqHandler
import Vhost.User.Header
import Vhost.User.SlaveFsCache
import Vhost.User.DummySlave
import Vhost.User.Frame
import Vhost.User.SlaveFrame
import Vhost.User.Negotiation
import Vhost.User.Transfer
import Vhost.User.Link
import Vhost.User.Request
import Vhost.User.VringFd
import Vhost.User.MemTable
import Vhost.User.Config
import Vhost.User.AttachedFds
import Vhost.User.VringAddr
import Vhost.User.ReplyAck
import Vhost.User.FsRequest
import Vhost.User.IoVec
import Vhost.User.Untrusted
import Vhost.User.GetConfig
import Vhost.User.Chunked
import Vhost.User.Pipeline
import Vhost.User.Session
import Vhost.User.CtrlMsg
import Vhost.User.Answer
import Vhost.User.Pairing
