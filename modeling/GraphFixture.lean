import GraphFixture.Main
import GraphFixture.Output.FileSystem.Fresh
import GraphFixture.Output.LimitedWriter
import GraphFixture.Session
import GraphFixture.Text.Utf8.RoundTrip
import GraphFixture.Proofs.Text.Words
import GraphFixture.Proofs.Block.Unambiguity
import GraphFixture.Proofs.Generator.Drawing
import GraphFixture.Proofs.Session.Walk
import GraphFixture.Proofs.Generator.Uniformity
import GraphFixture.Proofs.Fixture.Delimitation
import GraphFixture.Proofs.Run.Conduct
import GraphFixture.Proofs.Fixture.Closure
import GraphFixture.Proofs.CommandLine.Numerals
import GraphFixture.Proofs.Log.Recognition
import GraphFixture.Proofs.Block.Chunks
import GraphFixture.Proofs.Output.Truncation
import GraphFixture.Proofs.Output.Destination
import GraphFixture.Proofs.Fixture.Shape
import GraphFixture.Proofs.Session.Termination
import GraphFixture.Proofs.Text.Decoding
