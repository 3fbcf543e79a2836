import Lindenmayer.Session
import Lindenmayer.Log
import Lindenmayer.Service.Routes
import Lindenmayer.Value.Array
import Lindenmayer.Proofs.Limits
import Lindenmayer.Proofs.Sessions
import Lindenmayer.Proofs.Passes
import Lindenmayer.Proofs.Lengths
import Lindenmayer.Proofs.Alphabets
import Lindenmayer.Proofs.Verdicts
import Lindenmayer.Proofs.Effects
import Lindenmayer.Proofs.Streaming
import Lindenmayer.Proofs.Resuming
import Lindenmayer.Proofs.Branching
import Lindenmayer.Proofs.Sampling
import Lindenmayer.Proofs.Skipping
import Lindenmayer.Proofs.Stopping
import Lindenmayer.Proofs.Renderings
import Lindenmayer.Proofs.Tracing
import Lindenmayer.Proofs.Capturing
import Lindenmayer.Proofs.Closing
import Lindenmayer.Proofs.Answering
import Lindenmayer.Proofs.Saving
import Lindenmayer.Proofs.Placing
import Lindenmayer.Proofs.Fitting
import Lindenmayer.Proofs.Upright
import Lindenmayer.Proofs.Hashes
import Lindenmayer.Proofs.Hues
import Lindenmayer.Proofs.Shades
import Lindenmayer.Proofs.Compounding
import Lindenmayer.Proofs.Conversion
import Lindenmayer.Proofs.Descent
import Lindenmayer.Proofs.Signs
import Lindenmayer.Proofs.Strides
import Lindenmayer.Proofs.Displays
import Lindenmayer.Proofs.Growth
import Lindenmayer.Proofs.Histories
import Lindenmayer.Proofs.Rebuilding
import Lindenmayer.Proofs.Requests
import Lindenmayer.Proofs.Wording
import Lindenmayer.Proofs.Cleaning
import Lindenmayer.Proofs.Configuring
import Lindenmayer.Proofs.Coordinates
