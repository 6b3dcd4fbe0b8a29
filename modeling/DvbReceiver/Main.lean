import DvbReceiver.Command.Report

set_option autoImplicit false

open DvbReceiver in
def main (arguments : List String) : IO UInt32 := do
  let force ← IO.getEnv "DVBUSB_FORCE_PID_FILTER"
  let disable ← IO.getEnv "DVBUSB_DISABLE_RC"
  let directory ← IO.getEnv "DVBUSB_FIRMWARE_DIR"
  let filter ← IO.getEnv "RUST_LOG"
  let values := [("DVBUSB_FORCE_PID_FILTER", force), ("DVBUSB_DISABLE_RC", disable),
    ("DVBUSB_FIRMWARE_DIR", directory), ("RUST_LOG", filter)]
  let config := Config.ofEnvironment fun name =>
    ((values.lookup name).join).map fun text => text.toUTF8.toList
  let report := Command.run arguments config
  for line in report.output do
    IO.println line.text
  match report.complaint with
  | none => pure ()
  | some complaint => IO.eprintln complaint
  return UInt32.ofNat report.code
