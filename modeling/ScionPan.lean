import ScionPan.Path
import ScionPan.Selector.Default
import ScionPan.Selector.Fabrid
import ScionPan.ReplySelector
import ScionPan.Pinging.Loop
import ScionPan.Pinging.Rounds
import ScionPan.Selector.Pinging
import ScionPan.Subscriber
import ScionPan.Conn
import ScionPan.Listen
import ScionPan.Dial
import ScionPan.Lifecycle
import ScionPan.HelloFabrid
