import TextTemplate.Interval.Display
import TextTemplate.Log.NamedHandler
import TextTemplate.Main
import TextTemplate.Proofs.Search.Candidates
import TextTemplate.Proofs.Content.Language
import TextTemplate.Proofs.Content.Window
import TextTemplate.Proofs.Search.Exactness
import TextTemplate.Proofs.Search.Preference
import TextTemplate.Proofs.Search.Savings
import TextTemplate.Proofs.Search.Reuse
import TextTemplate.Proofs.Search.Likeness
import TextTemplate.Proofs.Search.Reachability
import TextTemplate.Proofs.Text.Numeral
import TextTemplate.Proofs.Fields
import TextTemplate.Proofs.Template.Cut
import TextTemplate.Proofs.Template.Filling
import TextTemplate.Proofs.Segments
import TextTemplate.Proofs.Template.Fault
import TextTemplate.Proofs.Trace
import TextTemplate.Proofs.CommandLine.Preamble
import TextTemplate.Proofs.Value.Json
import TextTemplate.Proofs.CommandLine.Answers
import TextTemplate.Proofs.CommandLine.Endings
import TextTemplate.Proofs.CommandLine.Recording
import TextTemplate.Proofs.CommandLine.Observation
import TextTemplate.Proofs.Log.Isolation
import TextTemplate.Proofs.Log.Journal
import TextTemplate.Proofs.CommandLine.Succession
import TextTemplate.Proofs.CommandLine.Agreement
import TextTemplate.Proofs.Settings
import TextTemplate.Proofs.Interval.Views
