import SqlMapper.Compiler
import SqlMapper.Diagnostic.Snippet
import SqlMapper.Generated.Run
import SqlMapper.Generated.Source
import SqlMapper.Generated.Splice
import SqlMapper.Json.Reading
import SqlMapper.Mapper.Outline
import SqlMapper.Proofs.Analysis.Expressions
import SqlMapper.Proofs.Analysis.Substitutions
import SqlMapper.Proofs.Compiler.Isolation
import SqlMapper.Proofs.Decimal.Whole
import SqlMapper.Proofs.Expression.Lossless
import SqlMapper.Proofs.Expression.Quoted
import SqlMapper.Proofs.Expression.Reading
import SqlMapper.Proofs.Expression.Sentence
import SqlMapper.Proofs.Generated.Scope
import SqlMapper.Proofs.Identifier.Admission
import SqlMapper.Proofs.Include.Comment
import SqlMapper.Proofs.Include.Component
import SqlMapper.Proofs.Include.Cycle
import SqlMapper.Proofs.Include.Finding
import SqlMapper.Proofs.Include.Resolution
import SqlMapper.Proofs.Include.Substitution
import SqlMapper.Proofs.Mapper.Interruption
import SqlMapper.Proofs.Mapper.Normal
import SqlMapper.Proofs.Mapper.Reading
import SqlMapper.Proofs.Mapper.Slice
import SqlMapper.Proofs.Member.Layout
import SqlMapper.Proofs.Member.Snapshot
import SqlMapper.Proofs.Render.Composition
import SqlMapper.Proofs.Render.Correspondence
import SqlMapper.Proofs.Render.Interference
import SqlMapper.Proofs.Render.Junction
import SqlMapper.Proofs.Render.Snapshot
import SqlMapper.Proofs.Source.Behaviour
import SqlMapper.Proofs.Template.Flat
import SqlMapper.Proofs.Text.Bytes
import SqlMapper.Proofs.Value.Consistency
import SqlMapper.Proofs.Value.Json
import SqlMapper.Proofs.Value.Order
import SqlMapper.Sample.Functions
import SqlMapper.Sample.Parameters
import SqlMapper.Value.ZeroSign
