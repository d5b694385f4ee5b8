import Bademeister.Basic
import Bademeister.Wire.Reader
import Bademeister.Wire.Common
import Bademeister.Wire.MsgTx
import Bademeister.Wire.MsgTxCodec
import Bademeister.Wire.MsgBlock
import Bademeister.Txscript
import Bademeister.Zmq.Parse
import Bademeister.Zmq.Height
import Bademeister.Zmq.ParseTransaction
import Bademeister.Zmq.ParseBlock
import Bademeister.Zmq.Coinbase
import Bademeister.Storage
import Bademeister.Daemon.System
import Bademeister.Daemon.Invariants
import Bademeister.Daemon.Tasks
import Bademeister.Daemon.Trace
import Bademeister.Zmq.BlockLoop
import Bademeister.Daemon.Shutdown
