import TimeSeries.Endpoint
import TimeSeries.Message.Basic

/-! Ways to reach a server. A transport acts on the state of all that lies behind it. -/

namespace TimeSeries

structure Transport (World Connection : Type) where
  connect : Endpoint → World → Except ConnectionError Connection × World
  call : Connection → Request → World → Reply × World
  close : Connection → World → Except ConnectionError Unit × World

end TimeSeries
