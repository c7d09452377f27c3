import MapSidebar.CommandLine.Start
import MapSidebar.Server.Http
import Std.Async.DNS
import Std.Async.TCP

/-!
# The command line program

Reads the settings file and the environment, and carries messages to the server over plain
connections, each used once. A redirect is not followed; it is the reply. The log goes where the blocks
go, without times, and is left out if a level is asked for.
-/
namespace MapSidebar.Main

open Std.Async Std.Net

def address (message : ServerMessage) : Async (Option SocketAddress) := do
  let some authority := message.url.authority | return none
  let port := UInt16.ofNat (authority.port.getD ((Url.defaultPort? message.url.scheme).getD 80))
  let host := String.ofList (authority.host.text.filter fun c => c ≠ '[' && c ≠ ']')
  let addresses ← DNS.getAddrInfo host "" none
  return addresses[0]?.map fun
    | .v4 a => .v4 ⟨a, port⟩
    | .v6 a => .v6 ⟨a, port⟩

partial def receiveAll (client : TCP.Socket.Client) (received : List UInt8) : Async (List UInt8) := do
  match ← client.recv? 65536 with
  | some bytes => receiveAll client (received ++ bytes.toList)
  | none => return received

def exchangeAsync (message : ServerMessage) : Async ServerReply := do
  let some server ← address message | return .hangup
  let client ← TCP.Socket.Client.mk
  client.connect server
  client.send ⟨message.bytes.toArray⟩
  return ServerReply.ofBytes (← receiveAll client [])

/-- Carries a message to the server; encrypted connections are not made. -/
def exchange (message : ServerMessage) : IO ServerReply := do
  if message.url.scheme ≠ "http".toList then return .hangup
  try (exchangeAsync message).block
  catch _ => return .hangup

def settingsFile : IO (Option (List UInt8)) := do
  try return some (← IO.FS.readBinFile Settings.fileName).toList
  catch _ => return none

def environment : IO (List (String × String)) := do
  let mut found := []
  for (name, _) in Settings.environmentKeys do
    if let some value ← IO.getEnv name then found := (name, value) :: found
  return found

def output (text : String) : IO Unit := do
  let stdout ← IO.getStdout
  stdout.putStr text
  stdout.flush

/-- Writes a line of the log, unless the environment asks for a level of its own. -/
def note (line : LogLine) : IO Unit := do
  if (← IO.getEnv "RUST_LOG").isNone then output (line.text ++ "\n")

end MapSidebar.Main

def main (words : List String) : IO UInt32 := do
  let values ← MapSidebar.Main.environment
  let start := MapSidebar.CommandLine.Start.ofWords words (← MapSidebar.Main.settingsFile)
    (fun name => values.lookup name)
  match start with
  | .misuse => IO.eprintln "Usage: explorer [OPTIONS] <URLS>..."
  | _ => pure ()
  MapSidebar.CommandLine.run MapSidebar.Main.exchange MapSidebar.Main.output start
    MapSidebar.Main.note
  match start with
  | .refused _ message => IO.eprintln ("Error: " ++ message)
  | _ => pure ()
  return UInt32.ofNat start.exitCode
