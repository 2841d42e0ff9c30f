import FrameLink.Link.Connection.Course
import FrameLink.Main
import FrameLink.Scenario.Exchange
import FrameLink.Scenario.HostExchange
import FrameLink.Scenario.Network
import FrameLink.Scenario.Sockets
import FrameLink.Scenario.Supervision
import FrameLink.Scenario.Taskless
import FrameLink.Wait.Threads
import FrameLink.Wire.Table
import FrameLink.Proofs.Host.ArrivalOrder
import FrameLink.Proofs.Link.Reopening
import FrameLink.Proofs.Link.BetweenSockets
import FrameLink.Proofs.Link.Fates
import FrameLink.Proofs.Link.Courses
import FrameLink.Proofs.Wire.Bodies
import FrameLink.Proofs.Host.Messages
import FrameLink.Proofs.Host.Sockets
import FrameLink.Proofs.Host.Shutdown
import FrameLink.Proofs.Host.Channels
import FrameLink.Proofs.Wire.Thrift
import FrameLink.Proofs.Host.Turns
import FrameLink.Proofs.Host.Echoes
import FrameLink.Proofs.Link.Abandoned
import FrameLink.Proofs.Link.Ledger
import FrameLink.Proofs.Link.Crossing
import FrameLink.Proofs.Child.Supervision
import FrameLink.Proofs.Child.Sandboxed
import FrameLink.Proofs.Wait.Queue
import FrameLink.Proofs.Wait.Threads
import FrameLink.Proofs.Wait.Line
import FrameLink.Wait.Reception
import FrameLink.Proofs.Wait.History
import FrameLink.Proofs.Wait.Reception
import FrameLink.Proofs.Wait.Records
import FrameLink.Proofs.Link.Inbox
import FrameLink.Host.Service
import FrameLink.Proofs.Host.Requests
import FrameLink.Proofs.Host.Uses
import FrameLink.Proofs.Host.Departures
import FrameLink.Proofs.Host.Answering
import FrameLink.Proofs.Link.Rounds
import FrameLink.Proofs.Link.TimeUp
import FrameLink.Proofs.Link.Receivers
import FrameLink.Proofs.Link.Sparing
import FrameLink.Proofs.Host.Relaying
import FrameLink.Proofs.Child.Grace
import FrameLink.Proofs.Link.Handshake
import FrameLink.Proofs.Link.Remembered
import FrameLink.Proofs.Wire.Delimited
import FrameLink.Proofs.Child.Lines
import FrameLink.Proofs.Url.Port
import FrameLink.Proofs.Url.Place
import FrameLink.Proofs.Settings.Budget
import FrameLink.Proofs.Host.Registrar
import FrameLink.Proofs.Link.Unsent
import FrameLink.Proofs.Host.Arrivals
