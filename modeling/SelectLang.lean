import SelectLang.Main
import SelectLang.Query.Grammar
import SelectLang.Query.Session
import SelectLang.Token.Grammar
import SelectLang.Trace
import SelectLang.Proofs.Token.Lexemes
import SelectLang.Proofs.Token.Lexing
import SelectLang.Proofs.Query.Derivation
import SelectLang.Proofs.Number.Nearest
import SelectLang.Proofs.Number.ReadBack
import SelectLang.Proofs.Token.Written
import SelectLang.Proofs.Query.RoundTrip
import SelectLang.Proofs.Query.Reread
import SelectLang.Proofs.Query.Refusal
import SelectLang.Proofs.Query.TruthValue
import SelectLang.Proofs.Query.Embedded
import SelectLang.Proofs.Query.Comments
import SelectLang.Proofs.Query.Restart
import SelectLang.Proofs.Token.Continuation
import SelectLang.Proofs.Token.Spacing
import SelectLang.Proofs.Query.Composition
import SelectLang.Proofs.CommandLine.Agreement
import SelectLang.Proofs.CommandLine.Rerun
import SelectLang.Proofs.Query.LetterCase
import SelectLang.Proofs.Query.WellFormed
import SelectLang.Proofs.Query.Descent
import SelectLang.Proofs.Token.ByteScan
import SelectLang.Proofs.Query.Literals
import SelectLang.Proofs.Query.Settling
import SelectLang.Proofs.Query.Failing
import SelectLang.Proofs.Trace.Account
import SelectLang.Proofs.Token.ReservedWord
import SelectLang.Proofs.CommandLine.Dump
import SelectLang.Proofs.Query.Nesting
import SelectLang.Proofs.Token.SymbolSearch
