import HomeGateway.Catalog.Board
import HomeGateway.Catalog.Die
import HomeGateway.Catalog.Thermometer

/-! What a payload decodes to. -/

namespace HomeGateway

inductive Reading where
  | thermometer (reading : ThermometerReading)
  | board (telemetry : BoardTelemetry)
  | die (temperature : DieTemperature)
  deriving DecidableEq

def Reading.table : Reading → DataTable
  | .thermometer r => r.table
  | .board b => b.table
  | .die d => d.table

end HomeGateway
