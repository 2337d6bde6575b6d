import EntityChat.Text.Quoted
import EntityChat.Token.Scanner
import EntityChat.Token.Cursor
import EntityChat.Token.InPlace
import EntityChat.Diagnostic
import EntityChat.Entity.Reader
import EntityChat.Transcript.Reader
import EntityChat.Node
import EntityChat.Dump
import EntityChat.Json
import EntityChat.Json.Documents
import EntityChat.CommandLine.Run
import EntityChat.Main
import EntityChat.Proofs.Characters
import EntityChat.Proofs.Cutting
import EntityChat.Proofs.KindSets
import EntityChat.Proofs.Cursors
import EntityChat.Proofs.Rules
import EntityChat.Proofs.Places
import EntityChat.Proofs.Moving
import EntityChat.Proofs.Boundaries
import EntityChat.Proofs.Machines
import EntityChat.Proofs.Phrases
import EntityChat.Proofs.Recognition
import EntityChat.Proofs.EntityGrammar
import EntityChat.Proofs.EntityReading
import EntityChat.Proofs.EntityPrinting
import EntityChat.Proofs.TranscriptGrammar
import EntityChat.Proofs.TranscriptReading
import EntityChat.Proofs.TranscriptPrinting
import EntityChat.Proofs.Carrying
import EntityChat.Proofs.TranscriptJoining
import EntityChat.Proofs.Provenance
import EntityChat.Proofs.Sessions
import EntityChat.Proofs.Repetition
import EntityChat.Proofs.Layouts
import EntityChat.Proofs.Formatting
import EntityChat.Proofs.Commands
import EntityChat.Proofs.MemberLists
import EntityChat.Proofs.Runs
import EntityChat.Proofs.Volume
import EntityChat.Proofs.Arguments
import EntityChat.Proofs.JsonText
import EntityChat.Proofs.Documents
import EntityChat.Proofs.ExpectedKinds
import EntityChat.Proofs.Rows
import EntityChat.Proofs.QuotedText
import EntityChat.Proofs.TokenListings
import EntityChat.Proofs.TextRecords
import EntityChat.Proofs.InPlace
import EntityChat.Proofs.TranscriptLoops
import EntityChat.Proofs.Walks
