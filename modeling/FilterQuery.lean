import FilterQuery.Schema.Source
import FilterQuery.Clause.Codec
import FilterQuery.Json.Printer
import FilterQuery.Proofs.Printing.Nesting
import FilterQuery.Proofs.Value.Wildcard
import FilterQuery.Proofs.Search.Typing
import FilterQuery.Proofs.Schema.Naming
import FilterQuery.Proofs.Schema.Searchability
import FilterQuery.Proofs.Search.Session
import FilterQuery.Proofs.Search.Stages
import FilterQuery.Proofs.Value.Dates
import FilterQuery.Proofs.Clause.Codec
import FilterQuery.Proofs.Clause.Outline
import FilterQuery.Proofs.Value.Integers
import FilterQuery.Proofs.Search.Faults
import FilterQuery.Proofs.Reading.Limits
import FilterQuery.Proofs.Reading.Groups
import FilterQuery.Proofs.Search.Shape
import FilterQuery.Proofs.Schema.Suggestions
import FilterQuery.Proofs.Schema.Reordering
import FilterQuery.Proofs.Value.Operators
import FilterQuery.Proofs.Search.Marked
import FilterQuery.Proofs.Search.Image
