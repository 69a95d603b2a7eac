import ZoneServer.Main
import ZoneServer.Message.Operation
import ZoneServer.Message.Report
import ZoneServer.Settings.File
import ZoneServer.Wire.Reading
import ZoneServer.Wire.Writing
import ZoneServer.Proofs.Name.Form
import ZoneServer.Proofs.Record.Form
import ZoneServer.Proofs.Message.Form
import ZoneServer.Proofs.Message.Truncation
import ZoneServer.Proofs.Name.Reads
import ZoneServer.Proofs.Address.Ipv4
import ZoneServer.Proofs.Record.Reads
import ZoneServer.Proofs.Message.Reads
import ZoneServer.Proofs.Name.Admits
import ZoneServer.Proofs.Message.Admits
import ZoneServer.Proofs.Message.Reencoding
import ZoneServer.Proofs.Message.RoundTrip
import ZoneServer.Proofs.Zone.Entries
import ZoneServer.Proofs.Zone.Reply
import ZoneServer.Proofs.Message.Operation
import ZoneServer.Proofs.Message.Stable
import ZoneServer.Proofs.Message.Inside
import ZoneServer.Proofs.Server.Reply
import ZoneServer.Proofs.Server.Shortened
import ZoneServer.Proofs.Wire.Tidy
import ZoneServer.Proofs.Wire.Writing
import ZoneServer.Proofs.Wire.Items
import ZoneServer.Proofs.Name.InFull
import ZoneServer.Proofs.Message.InFull
import ZoneServer.Proofs.Wire.Advances
import ZoneServer.Proofs.Message.Advances
import ZoneServer.Proofs.Wire.Reading
import ZoneServer.Proofs.Message.Lockstep
import ZoneServer.Proofs.Name.Case
import ZoneServer.Proofs.Message.Case
import ZoneServer.Proofs.Zone.Case
import ZoneServer.Proofs.Server.Loop
import ZoneServer.Proofs.Wire.Prefixed
import ZoneServer.Proofs.Message.Asking
import ZoneServer.Proofs.Name.Step
import ZoneServer.Proofs.Name.Resolution
import ZoneServer.Proofs.Name.Fault
import ZoneServer.Proofs.Record.Fault
import ZoneServer.Proofs.Zone.Fault
import ZoneServer.Proofs.Message.Concatenation
import ZoneServer.Proofs.Name.Inline
import ZoneServer.Proofs.Record.Framing
import ZoneServer.Proofs.Message.Framing
import ZoneServer.Proofs.Name.Spelling
import ZoneServer.Proofs.Name.Equality
import ZoneServer.Proofs.Name.Filling
import ZoneServer.Proofs.Wire.InTurn
import ZoneServer.Proofs.Message.Counts
import ZoneServer.Proofs.Name.Budget
import ZoneServer.Proofs.Address.Dotted
import ZoneServer.Proofs.Record.Address
import ZoneServer.Proofs.Message.Report
