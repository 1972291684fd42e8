import ImageScript.ByteReader
import ImageScript.Word
import ImageScript.Unicode.Unprintable
import ImageScript.Unicode.Width
import ImageScript.Failure
import ImageScript.Grammar.Reading
import ImageScript.Lexer
import ImageScript.Machine
import ImageScript.CommandLine
import ImageScript.Prompt
import ImageScript.Main
import ImageScript.Proofs.Places
import ImageScript.Proofs.Ascii
import ImageScript.Proofs.Spelling
import ImageScript.Proofs.Streams
import ImageScript.Proofs.Layouts
import ImageScript.Proofs.Failures
import ImageScript.Proofs.ByteSteps
import ImageScript.Proofs.ByteByByte
import ImageScript.Proofs.Locations
import ImageScript.Proofs.Cuts
import ImageScript.Proofs.Answers
import ImageScript.Proofs.Moves
import ImageScript.Proofs.Calls
import ImageScript.Proofs.Lines
import ImageScript.Proofs.Lookahead
import ImageScript.Proofs.Boundaries
import ImageScript.Proofs.LineEndings
import ImageScript.Proofs.TokenCalls
import ImageScript.Proofs.Settling
import ImageScript.Proofs.Interleavings
import ImageScript.Proofs.Respacing
import ImageScript.Proofs.Numerals
import ImageScript.Proofs.Tables
import ImageScript.Proofs.Excerpts
import ImageScript.Proofs.Marks
import ImageScript.Proofs.LineNumbers
import ImageScript.Proofs.Kinds
import ImageScript.Proofs.Messages
import ImageScript.Proofs.Quotations
import ImageScript.Proofs.Requests
import ImageScript.Proofs.Readers
import ImageScript.Proofs.Drawings
