import ParityDuel.Hall
import ParityDuel.Lobby
import ParityDuel.Proofs.Hall.Inboxes
import ParityDuel.Proofs.Room.Outsiders
import ParityDuel.Proofs.Room.Updates
import ParityDuel.Proofs.Room.View
import ParityDuel.Settings.Dotenv
import ParityDuel.Text.Hex
import ParityDuel.Proofs.Room.Refusals
import ParityDuel.Proofs.Session.Runs
import ParityDuel.Proofs.Session.Rematch
import ParityDuel.Proofs.Board.Lines
import ParityDuel.Proofs.Session.Winning
import ParityDuel.Proofs.Json.Grammar
import ParityDuel.Proofs.Json.Scan
import ParityDuel.Proofs.Text.Utf8
import ParityDuel.Proofs.Json.Literal
import ParityDuel.Proofs.Json.Number
import ParityDuel.Proofs.Json.Elements
import ParityDuel.Proofs.Json.Tree
import ParityDuel.Proofs.Json.Loose
import ParityDuel.Proofs.Json.SkipLiteral
import ParityDuel.Proofs.Json.Skip
import ParityDuel.Proofs.Json.Faults
import ParityDuel.Proofs.Wire.Fields
import ParityDuel.Proofs.Wire.Kind
import ParityDuel.Proofs.Wire.Tagged
import ParityDuel.Proofs.Wire.Request
import ParityDuel.Proofs.Session.Phases
import ParityDuel.Proofs.Room.Departures
import ParityDuel.Proofs.Wire.Inspection
import ParityDuel.Proofs.Wire.Notice
import ParityDuel.Desk
import ParityDuel.Proofs.Board.Moves
import ParityDuel.Proofs.Session.Reordering
import ParityDuel.Proofs.Room.Shutdown
import ParityDuel.Proofs.Room.Lifetimes
import ParityDuel.Proofs.Desk.Order
import ParityDuel.Proofs.Desk.Lifetimes
import ParityDuel.Proofs.Server.Inversion
import ParityDuel.Proofs.Server.Handlers
import ParityDuel.Proofs.Server.Partings
import ParityDuel.Proofs.Server.Soundness
import ParityDuel.Proofs.Server.Connections
import ParityDuel.Mailing
import ParityDuel.Proofs.Board.Wins
import ParityDuel.Proofs.Mailing.Arrivals
import ParityDuel.Proofs.Server.Identities
import ParityDuel.Proofs.Server.Writers
import ParityDuel.Proofs.Session.Draws
import ParityDuel.Proofs.Room.Addressing
import ParityDuel.Proofs.Wire.Layouts
import ParityDuel.Proofs.Wire.Classification
import ParityDuel.Proofs.Settings.Lookup
import ParityDuel.Proofs.Settings.Checking
import ParityDuel.Proofs.Settings.Fallback
import ParityDuel.Proofs.Settings.Guess
import ParityDuel.Proofs.Settings.Written
import ParityDuel.Proofs.Server.Launch
import ParityDuel.Proofs.Poll.Rounds
import ParityDuel.Proofs.Seats.Seating
import ParityDuel.Office
import ParityDuel.Proofs.Office.Inversion
import ParityDuel.Proofs.Office.Histories
import ParityDuel.Proofs.Office.Writers
import ParityDuel.Proofs.Office.Identities
import ParityDuel.Proofs.Office.Promptness
