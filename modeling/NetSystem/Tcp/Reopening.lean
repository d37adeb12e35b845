import NetSystem.Tcp.KjReopening
import NetSystem.Tcp.KjStopped
import NetSystem.Tcp.UvReopening

namespace NetSystem

/-!
# `Reopen` with both factories

A comment in `Disconnect` says that it stops the connection and flushes its stream, but
does not dispose of it.  In both factories it releases the connection, which disposes of
it.  So `Reopen` reopens no connection that is connected.  With the Uv factory it also
reopens none after a negative delay.
-/

namespace UvUpstream

end UvUpstream

namespace KjWorld

/-- The link is lost, and the front end knows. -/
def dropped : KjWorld := after false (linkDropped ++ [.runCallback])

end KjWorld

end NetSystem
