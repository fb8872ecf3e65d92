import Ricq.Bytes
import Ricq.Wtlogin.T547
import Ricq.Wtlogin.Decode
import Ricq.ImgStore.Decoder
import Ricq.Client.Dedup
import Ricq.Client.TimedStore
import Ricq.Client.OnlinePush
import Ricq.Client.DedupEpochs
import Ricq.Client.GroupMessage
import Ricq.Client.GroupSystemMsg
import Ricq.Client.GroupSystemTasks
import Ricq.Client.PushTasks
import Ricq.Net.Status
import Ricq.Net.Loop
import Ricq.Net.Framer
import Ricq.Net.Inbound
