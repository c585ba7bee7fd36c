import Gortsplib.Strings
import Gortsplib.Headers.RTPInfo
import Gortsplib.Rtp.Packet
import Gortsplib.Rtpaac.Encoder
import Gortsplib.Bufio
import Gortsplib.Client.Conn
import Gortsplib.Client.Publish
import Gortsplib.Client.Tasks
import Gortsplib.Client.Invariant
import Gortsplib.Client.Interleaved
import Gortsplib.Client.WriteFrame
import Gortsplib.Client.RecordLoop
import Gortsplib.Client.Published
import Gortsplib.Client.Terminate
import Gortsplib.Example.Server
