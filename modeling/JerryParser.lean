import JerryParser.Lexer
import JerryParser.Stack
import JerryParser.Context
import JerryParser.Emit
import JerryParser.Scanner
import JerryParser.Statement
import JerryParser.Branching
import JerryParser.Statements
import JerryParser.Sample
import JerryParser.Frames
import JerryParser.Logic
import JerryParser.Walks
import JerryParser.Steps
import JerryParser.Jumps
import JerryParser.Inert
import JerryParser.ScanStack
import JerryParser.Accounting
import JerryParser.Updates
import JerryParser.Openings
import JerryParser.Closings
import JerryParser.Filings
import JerryParser.Boundaries
import JerryParser.Vm
import JerryParser.Directives
import JerryParser.ScanModes
import JerryParser.ScanRuns
import JerryParser.OpcodeCache
import JerryParser.Keeps
import JerryParser.FrameInvariants
import JerryParser.WithFlag
import JerryParser.BranchLists
import JerryParser.Ownership
