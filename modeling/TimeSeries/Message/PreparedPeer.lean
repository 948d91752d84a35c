import TimeSeries.Message.Transport

namespace TimeSeries

/-- A peer with prepared answers. Once a queue is empty, connecting and closing succeed and calls
are acknowledged. -/
structure PreparedPeer where
  connects : List (Except ConnectionError Unit) := []
  replies : List Reply := []
  closes : List (Except ConnectionError Unit) := []

def takeFront {α : Type} (fallback : α) : List α → α × List α
  | [] => (fallback, [])
  | front :: rest => (front, rest)

def PreparedPeer.transport : Transport PreparedPeer Unit where
  connect _ peer :=
    let (result, connects) := takeFront (.ok ()) peer.connects
    (result, { peer with connects })
  call _ _ peer :=
    let (reply, replies) := takeFront (.answer .ok) peer.replies
    (reply, { peer with replies })
  close _ peer :=
    let (result, closes) := takeFront (.ok ()) peer.closes
    (result, { peer with closes })

end TimeSeries
