import EventFlow.Text.CodeTable

/-!
# Combining characters

Which characters combine with those before them, and what the pairs of a character and a mark are
written as.

The tables are those of Unicode 17, restricted to characters that may stand in a domain name.
Others do not come up and have the value of the run they fall into.

## Main definitions

* `Text.combiningClass`: how marks are ordered.
* `Text.isMark`: which characters are marks.
* `Text.splitPair?`, `Text.joinPair?`: the pair of a composed character, and back.
-/

namespace EventFlow

namespace Text

/-- The rows of the combining classes. -/
def combiningRows : List String := [
  "0C0 lcC6e lC6g 1C64 4C6g 1C60 1C64 5C5m 2C64 4C5m 2C64 bC1 5C64 4C6e aC64 3C6e 3C64 3C6e",
  "3C64 4C6e 1C6g 1C64 2C6e 1C6h 1C6i 2C6h 1C6i 2C6h 1C6e eC0 7mC6e 5C0 7dC64 1C6e 4C64",
  "1C6e 3C66 1C64 1C6e 6C64 6C6e 2C64 1C6e 2C66 1C6c 1C6e 1Ca 1Cb 1Cc 1Cd 1Ce 1Cf 1Cg 1Ch",
  "1Ci 1Cj 2Ck 1Cl 1Cm 1C0 1Cn 1C0 1Co 1Cp 1C0 1C6e 1C64 1C0 1Ci 9C0 1sC6e 8Cu 1Cv 1Cw 1C0",
  "1cCr 1Cs 1Ct 1Cu 1Cv 1Cw 1Cx 1Cy 1C6e 2C64 2C6e 5C64 1C6e 2C64 1C0 gCz 1C0 2tC6e 8C0",
  "1C6e 4C64 1C6e 1C0 2C6e 2C0 1C64 1C6e 2C64 1C0 zC10 1C0 uC6e 1C64 1C6e 2C64 1C6e 2C64",
  "3C6e 1C64 2C6e 1C64 1C6e 3C64 1C6e 1C64 1C6e 1C64 1C6e 1C64 1C6e 4C0 4eC6e 7C64 1C6e 1C0",
  "9C64 1C0 oC6e 4C0 1C6e 9C0 1C6e 3C0 1C6e 7C0 15C64 5C0 1lC6e 2C64 3C6e 4C0 16C6e 5C64",
  "5C6e fC64 1C6e 2C64 1C6e 2C64 1C6e 3C64 3Cr 1Cs 1Ct 1C6e 3C64 1C6e 2C64 2C6e 5C0 1oC7",
  "1C0 gC9 1C0 3C6e 1C64 1C6e 2C0 2vC7 1C0 gC9 1C0 1cC6e 3C0 1nC7 2C0 fC9 4C0 2zC7 1C0 gC9",
  "3C0 30C7 1C0 gC9 8C0 3cC9 3C0 30C7 1C0 gC9 8C2c 1C2j 2C0 2sC7 1C0 gC9 8C0 2uC9 2C0 gC9",
  "1C0 3gC9 5C0 2xC2v 2C9 5C0 9C2z 4C0 30C3a 2C9 1C0 dC3e 4C0 24C64 2C0 rC64 1C0 1C64 1C0",
  "1C60 1C0 1jC3l 1C3m 2C3o 6C3m 4C0 2C3m 2C6e 2C9 1C0 1C6e 2C0 1qC64 1C0 34C7 1C0 1C9 2C0",
  "2aC64 1C0 jzC6e 3C0 qcC9 bC0 lC9 1C0 4dC9 1C0 aC6e 3C0 5lC6c 1C0 3zC66 1C6e 1C64 5C0",
  "5zC6e 1C64 1C0 1zC9 1C0 kC6e aC64 1C0 1cC6e 5C64 6C6e 2C64 1C0 1C64 2C6e 2C64 2C6e 5C64",
  "1C6e iC64 3C6e 6C64 1C6e 4C6i lC0 1gC7 1C0 fC9 1C0 12C6e 1C64 1C6e 7C0 1iC9 2C0 1mC7 1C0",
  "bC9 aC0 1nC7 4C0 45C6e 3C0 1C1 1C64 5C6e 2C64 4C6e 1C0 1C1 7C0 4C64 1C0 6C6e 1C0 3C6e",
  "2C0 5iC6e 2C64 1C6e 7C64 1C6e 2C6i 1C5y 1C64 1C5m 1C6e 11C6g 1C6c 2C64 1C62 1C6e 1C6h",
  "1C64 1C6e 1C64 2C0 jzC6e 2C1 2C6e 4C1 3C6e 2C0 4C6e 1C0 3C1 2C6e 1C64 1C6e 1C1 2C64 4C6e",
  "kC0 2crC6e 4C0 3wC9 1C0 2oC6e wC0 feC62 1C6c 1C6g 1C66 1C68 2C0 2xC8 4C0 n9uC6e 1C0 4C6e",
  "aC0 wC6e 2C0 28C6e 2C0 7oC9 1C0 11C9 4C0 44C9 1C0 rC6e iC0 1lC64 3C0 11C9 cC0 2cC7 1C0",
  "cC9 1C0 6nC6e 1C0 1C6e 2C64 1C0 2C6e 2C0 5C6e 2C0 1C6e 1C0 1gC9 bC0 6kC9 3C0 fn2Cq 44C0",
  "haC6e 7C64 7C6e nC0 qgC64 3nC0 2oC64 1C0 45C6e aC0 1alC64 1C0 1C6e 1C0 14C6e 1C1 1C64",
  "5C9 1C0 4lC6e 1C64 5C0 ftC6e cC0 1lC6e 5C0 8tC6e 2C0 25C64 2C0 1C64 3C0 1yC64 2C6e 3C64",
  "1C6e 1C64 4C0 1dC6e 1C64 1C6e 1C64 1C0 5cC9 1C0 15C9 1C0 eC9 1C0 1lC9 1C7 1C0 1xC6e 3C0",
  "1cC9 3C0 1pC7 1C0 24C9 1C0 9C7 1C0 2yC9 1C7 1C0 4yC7 1C9 6C0 23C7 2C0 gC9 3C0 mC6e qC0",
  "26C9 3C0 35C9 1C0 3C7 1C0 nC6e 1C0 2rC9 1C7 1C0 6zC9 1C7 1C0 3iC9 1C0 3aC9 1C7 1C0 37C9",
  "5C0 7dC9 1C7 1C0 76C9 2C0 4C7 1C0 4cC9 1C0 2bC9 1C0 iC9 9C0 21C9 1C0 bpC9 1C0 76C7 1C0",
  "1C9 2C0 29C9 1C0 btC9 2C0 d0sC9 1C0 1xcC1 5C0 1nC6e 7C0 xlC6 2C0 f58C1 1C0 43qC60 2C1",
  "3C0 3C6a 1C60 dC64 8C0 2C6e 5C64 2C0 uC6e 4C0 44C6e 3C0 2pnC6e 74C0 1cC6e 7C0 afC6e iC0",
  "18C6e 4C0 e4C6g 2C64 1C6e 1C0 72C6e 1C64 1C0 6rC6e 1C0 2C6e 1C0 7C6e 2C0 5C6e 9C0 cyC64",
  "2aC0 yC6e 6C7 1C0"]

/-- The rows of the marks: `M` for marks, `B` for what they stand on. -/
def markRows : List String := [
  "0B lcM 35B 7mM 8B 7aM 19B 1M 1B 1M 2B 1M 2B 1M 9B 1sM bB 1cM lB gM 1B 2tM 8B 1M 6B 2M 2B",
  "1M 4B zM 1B uM tB 2hM bB 1mM 9B 9M 1B oM 4B 1M 9B 1M 3B 1M 7B 15M 5B 1lM 9B 16M 1mB 1iM",
  "3B 1M iB 1M fB 2M 2B tM 4B 1jM 1B 1M gB 9M 9B 2M 4B oM 7B 1jM wB kM 2B 3M 1B bM 4B 1jM",
  "1B 1M iB iM 4B kM bB 1jM 1B 1M xB 3M 4B sM 1B 1nM iB 7M fB qM 5B 1jM 1B 1M qB aM 4B rM",
  "3B 1kM 1B 1M uB 6M 4B dM hB 1jM 2B 1M gB 9M 1B aM 4B rM 4B 1xM sB cM 2B 1pM 1B 2M bB 8M",
  "8B 2qM 1B 2M 9B bM 8B 20M 2B rM 1B 1M 1B 1M 1B 4M 2B 1dM kB 1M 2B 5M 1dB 8M 1B 2sM kB nM",
  "4B 4M 3B 1M 3B 2M 7B 3M 4B dM cB 1M 1B aM 4B jjM 3B qaM dB jM 3B tM eB iM eB 1iM uB 9M",
  "3B 4lM 2B yM 1B 3aM wB 5zM 7B 1jM 17B 1cM 2dB 1bM hB 12M 9B cM 3B uM dB 1kM mB 14M nB",
  "45M 3B 1M lB 4M 1B 6M 1B 2M 3B 5iM 1tB jzM 1gB 2crM 4B 3wM 1B 2oM wB feM 6B 2xM 4B n9uM",
  "4B 1M aB wM 2B 28M 2B 7kM 1B 3M 1B 4M 1B nM 5B 4M 4B 28M 2B 1eM qB iM iB dM 1B 12M 8B pM",
  "oB xM 4B 1bM eB 10M 1B 1vM nB 3M 1B 8M 4B 17M 3B 1eM 1B 1M 3B 2M 2B 5M 2B 1M 1B 15M 5B",
  "5M cB 6aM 8B 1M 4B fn2M 44B haM 11B qgM 3nB 2oM 1B 45M aB 1a9M fB 14M 8B 4lM 6B ftM cB",
  "1lM 5B 8tM 2B 25M 6B 1yM bB 1dM 4B 3eM 3B 1hM fB 15M 1B 2M 2B aM 4B 19M bB 7M eB 1cM 3B",
  "10M fB fM 2B 18M 1B cM 3B 1cM eB 8M 4B 1M 2B 2kM cB 6M 1B 2M 1rB 2nM hB gM 5B 1iM 2B 1M",
  "iB 7M 6B 5M uB 1kM pB 1M 1B eM vB 1hM iB nM 1B 29M kB 6jM iB rM 10B 1cM hB 2yM dB 2tM jB",
  "70M fB 6tM fB 1M 1B 1M 2B 3xM gB 3M sB 1M aB 14M 7B 1M 4B 8M 9B 1M bB 1aM gB 5iM 2oB 33M",
  "hB 2aM 32B 1dM lB 1M 9B 1mM eB 9nM 4B 9M 2B 1M 1B 1cM fB nM 2eB 428M 1B 6M pB 8u6M iB",
  "1xcM 5B 1nM 7B t4M 1B 1M 1uB 29M eB f57M 2B 3mpM 28B etM 5B 3M mB 2M 7B uM 4B 44M 3B",
  "1izM 1jB 4M 1eB 8M 1B eM 1B mM v9B 74M 74B 1cM 7B afM iB 18M 4B e4M 4B 72M 2B 6rM 1B 2M",
  "1B 7M 2B 5M 9B cyM 2aB yM 7B"]

/-- The rows of the composed characters with their pairs. -/
def pairRows : List String := [
  "68P2p,lc 1P2p,ld 1P2p,le 1P2p,lf 1P2p,lk 1P2p,lm 2P2r,mf 1P2t,lc 1P2t,ld 1P2t,le 1P2t,lk",
  "1P2x,lc 1P2x,ld 1P2x,le 1P2x,lk 2P32,lf 1P33,lc 1P33,ld 1P33,le 1P33,lf 1P33,lk 3P39,lc",
  "1P39,ld 1P39,le 1P39,lk 1P3d,ld 2P3d,lk 2P2p,lg 2P2p,li 2P2p,mg 2P2r,ld 2P2r,le 2P2r,lj",
  "2P2r,lo 2P2s,lo 4P2t,lg 2P2t,li 2P2t,lj 2P2t,mg 2P2t,lo 2P2v,le 2P2v,li 2P2v,lj 2P2v,mf",
  "2P2w,le 4P2x,lf 2P2x,lg 2P2x,li 2P2x,mg 6P2y,le 2P2z,mf 3P30,ld 2P30,mf 2P30,lo 6P32,ld",
  "2P32,mf 2P32,lo 5P33,lg 2P33,li 2P33,ln 4P36,ld 2P36,mf 2P36,lo 2P37,ld 2P37,le 2P37,mf",
  "2P37,lo 2P38,mf 2P38,lo 4P39,lf 2P39,lg 2P39,li 2P39,lm 2P39,ln 2P39,mg 2P3b,le 2P3d,le",
  "3P3e,ld 2P3e,lj 2P3e,lo zP33,m3 fP39,m3 uP2p,lo 2P2x,lo 2P33,lo 2P39,lo 2P70,lg 2P70,ld",
  "2P70,lo 2P70,lc 3P6c,lg 2Pfb,lg 2P6e,lg 4P2v,lo 2P2z,lo 2P33,mg 2Pdn,lg 2Pia,lo 1P2y,lo",
  "5P2v,ld 4P32,lc 2P6d,ld 2P6e,ld 2P6w,ld 2P2p,lr 2P2p,lt 2P2t,lr 2P2t,lt 2P2x,lr 2P2x,lt",
  "2P33,lr 2P33,lt 2P36,lr 2P36,lt 2P39,lr 2P39,lt 2P37,me 2P38,me 4P2w,lo 8P2p,lj 2P2t,mf",
  "2P6u,lg 2P6t,lg 2P33,lj 2Pfj,lg 2P3d,lg 9pPqy,ld sPq9,ld 1Pqd,ld 1Pqf,ld 1Pqh,ld 1Pqz,ld",
  "qPqh,lk 1Pqt,lk 1Pqn,ld 1Pqt,ld 1Pqx,ld 2zPu0,li nPtx,lc 1Ptx,lk 2Ptv,ld 4Puu,lk 5Pu2,ld",
  "1Pu0,lc 1Pub,li pPvp,lr 23Pty,li fPts,li 2Pts,lk 4Ptx,li 4Pyh,lk 2Pty,lk 2Ptz,lk 4Pu0,lg",
  "2Pu0,lk 2Pu6,lk 4Pyx,lk 2Pul,lk 2Pub,lg 2Pub,lk 2Pub,ln 2Puf,lk 4Puj,lk 89P17r,18z",
  "1P17r,190 1P18o,190 1P17r,191 1P18q,190 4aP1cl,190 2P1c1,190 hP1ci,190 gmP1t4,1to",
  "8P1tc,1to 3P1tf,1to 47P1xj,1xa 1P1xj,1xz akP287,28m 3P287,27y 1P287,28n 20P2aa,2c7",
  "1iP2bq,2bi 1P2br,2bi 1P2bq,2c7 3gP2fa,2fq 3cP2in,2j9 7P2iu,2j9 1P2iu,2ja 2P2iu,2iq",
  "1P2iy,2j9 3jP2me,2m6 1P2mf,2m6 1P2me,2mv 3yP2qh,2q2 2P2qh,2q7 1P2qk,2q2 1P2qh,2qn",
  "g8P36t,372 25cP5c5,5dh 2P5c7,5dh 2P5c9,5dh 2P5cb,5dh 2P5cd,5dh 4P5ch,5dh 15P5dm,5dh",
  "2P5do,5dh 3P5dq,5dh 1P5dr,5dh 2P5du,5dh jiP2p,md 2P2q,lj 2P2q,mb 2P2q,mp 2P6f,ld 2P2s,lj",
  "2P2s,mb 2P2s,mp 2P2s,mf 2P2s,ml 2P7n,lc 2P7n,ld 2P2t,ml 2P2t,mo 2Pfd,li 2P2u,lj 2P2v,lg",
  "2P2w,lj 2P2w,mb 2P2w,lk 2P2w,mf 2P2w,mm 2P2x,mo 2P6n,ld 2P2z,ld 2P2z,mb 2P2z,mp 2P30,mb",
  "2P5yv,lg 2P30,mp 2P30,ml 2P31,ld 2P31,lj 2P31,mb 2P32,lj 2P32,mb 2P32,mp 2P32,ml 2P6t,ld",
  "2P6t,lk 2P99,lc 2P99,ld 2P34,ld 2P34,lj 2P36,lj 2P36,mb 2P5zv,lg 2P36,mp 2P37,lj 2P37,mb",
  "2P9n,lj 2P9t,lj 2P603,lj 2P38,lj 2P38,mb 2P38,mp 2P38,ml 2P39,mc 2P39,mo 2P39,ml 2Pa1,ld",
  "2Pa3,lk 2P3a,lf 2P3a,mb 2P3b,lc 2P3b,ld 2P3b,lk 2P3b,lj 2P3b,mb 2P3c,lj 2P3c,lk 2P3d,lj",
  "2P3e,le 2P3e,mb 2P3e,mp 1P2w,mp 1P38,lk 1P3b,lm 1P3d,lm 8P2p,mb 2P2p,ll 2P6a,ld 2P6a,lc",
  "2P6a,ll 2P6a,lf 2P61t,le 2P77,ld 2P77,lc 2P77,ll 2P77,lf 2P61t,li 2P2t,mb 2P2t,ll",
  "2P2t,lf 2P6i,ld 2P6i,lc 2P6i,ll 2P6i,lf 2P62h,le 2P2x,ll 2P2x,mb 2P33,mb 2P33,ll 2P6s,ld",
  "2P6s,lc 2P6s,ll 2P6s,lf 2P631,le 2Pbl,ld 2Pbl,lc 2Pbl,ll 2Pbl,lf 2Pbl,mb 2P39,mb 2P39,ll",
  "2Pc0,ld 2Pc0,lc 2Pc0,ll 2Pc0,lf 2Pc0,mb 2P3d,lc 2P3d,mb 2P3d,ll 2P3d,lf 7Pq9,lv 1Pq9,lw",
  "1P64g,lc 1P64h,lc 1P64g,ld 1P64h,ld 1P64g,n6 1P64h,n6 9Pqd,lv 1Pqd,lw 1P64w,lc 1P64x,lc",
  "1P64w,ld 1P64x,ld bPqf,lv 1Pqf,lw 1P65c,lc 1P65d,lc 1P65c,ld 1P65d,ld 1P65c,n6 1P65d,n6",
  "9Pqh,lv 1Pqh,lw 1P65s,lc 1P65t,lc 1P65s,ld 1P65t,ld 1P65s,n6 1P65t,n6 9Pqn,lv 1Pqn,lw",
  "1P668,lc 1P669,lc 1P668,ld 1P669,ld bPqt,lv 1Pqt,lw 1P66o,lc 1P66p,lc 1P66o,ld 1P66p,ld",
  "1P66o,n6 1P66p,n6 9Pqx,lv 1Pqx,lw 1P674,lc 1P675,lc 1P674,ld 1P675,ld 1P674,n6 1P675,n6",
  "9Pq9,lc 2Pqd,lc 2Pqf,lc 2Pqh,lc 2Pqn,lc 2Pqt,lc 2Pqx,lc 1gPq9,li 1Pq9,lg 5Pq9,n6 gPqf,n6",
  "aPqh,li 1Pqh,lg 1Pqy,lc 4Pqh,n6 1Pqy,n6 9Pqt,li 1Pqt,lg 1Pqz,lc 2Pqp,lv 1Pqp,lw 1Pqt,n6",
  "1Pqz,n6 fPqx,n6 boP6mo,mw 1P6mq,mw jP6ms,mw vP6og,mw 1P6ok,mw 1P6oi,mw 1hP6pv,mw",
  "5P6q0,mw 3P6q3,mw oP6qr,mw 2P6qt,mw rP6rg,mw 3P6rn,mw 3P6rp,mw 2P6rs,mw nP1p,mw 2P6sh,mw",
  "bP6rx,mw 1P1o,mw 1P1q,mw 1P6sk,mw 1P6sl,mw 3P6sy,mw 1P6sz,mw 3P6t2,mw 1P6t3,mw 7P6t6,mw",
  "1P6t7,mw 3P6te,mw 1P6tf,mw 3P6ti,mw 1P6tj,mw zP6ua,mw 1P6ug,mw 1P6uh,mw 1P6uj,mw",
  "1dP6t8,mw 1P6t9,mw 1P6tt,mw 1P6tu,mw 7P6uq,mw 1P6ur,mw 1P6us,mw 1P6ut,mw 2n3P9jf,9ll",
  "2P9jh,9ll 2P9jj,9ll 2P9jl,9ll 2P9jn,9ll 2P9jp,9ll 2P9jr,9ll 2P9jt,9ll 2P9jv,9ll",
  "2P9jx,9ll 2P9jz,9ll 2P9k1,9ll 3P9k4,9ll 2P9k6,9ll 2P9k8,9ll 7P9kf,9ll 1P9kf,9lm",
  "2P9ki,9ll 1P9ki,9lm 2P9kl,9ll 1P9kl,9lm 2P9ko,9ll 1P9ko,9lm 2P9kr,9ll 1P9kr,9lm",
  "nP9ja,9ll aP9lp,9ll eP9m3,9ll 2P9m5,9ll 2P9m7,9ll 2P9m9,9ll 2P9mb,9ll 2P9md,9ll",
  "2P9mf,9ll 2P9mh,9ll 2P9mj,9ll 2P9ml,9ll 2P9mn,9ll 2P9mp,9ll 3P9ms,9ll 2P9mu,9ll",
  "2P9mw,9ll 7P9n3,9ll 1P9n3,9lm 2P9n6,9ll 1P9n6,9lm 2P9n9,9ll 1P9n9,9lm 2P9nc,9ll",
  "1P9nc,9lm 2P9nf,9ll 1P9nf,9lm nP9ly,9ll 3P9nz,9ll 1P9o0,9ll 1P9o1,9ll 1P9o2,9ll",
  "4P9od,9ll 1617P1fpu,lj rP1fq2,lj 246P1huh,1hve 2P1huj,1hve fP1hut,1hve 3nP1hyp,1hyf",
  "1P1hyq,1hyf f0P1idj,1ida 1P1idj,1idz 1jP1if6,1ih5 2P1if8,1igr 9P1iff,1igy 3P1ifk,1ih5",
  "1gP1igy,1igy 2P1igy,1igo 1P1igy,1ih5 6rP1int,1inu 1P1int,1ink 2P1int,1inx 70P1iuw,1iun",
  "1P1iux,1iun otP1jjp,1jjk e7dP1xr2,1xr2 1P1xr2,1xrd 1P1xr2,1xr3 1P1xrd,1xr3 1P1xr2,1xr4",
  "1P1xr5,1xr3 1P1xr6,1xr3 1P1xr5,1xr4 2f4P206f,206f 1P206b,206f 1P206h,206f"]

/-- The combining classes. -/
def combiningTable : CodeTable Nat :=
  .ofRows (fun _ numbers => numbers.headD 0) combiningRows

/-- The marks. -/
def markTable : CodeTable Bool :=
  .ofRows (fun kind _ => kind == 'M') markRows

/-- The pair that two numbers stand for. -/
def pairOf : List Nat → Char × Char
  | [first, second] => (Char.ofNat first, Char.ofNat second)
  | _ => ('\x00', '\x00')

/-- The composed characters, each a run of its own. -/
def pairTable : CodeTable (Char × Char) :=
  .ofRows (fun _ numbers => pairOf numbers) pairRows

/-- The class by which marks behind the same character are ordered; zero for what is no such
    mark. -/
def combiningClass (c : Char) : Nat :=
  combiningTable.value 0 c

/-- Whether a character is a mark on the one before it. -/
def isMark (c : Char) : Bool :=
  markTable.value false c

/-- The pair that a composed character stands for. -/
def splitPair? (c : Char) : Option (Char × Char) :=
  (pairTable.find? c).bind fun (start, pair) => if start = c.toNat then some pair else none

/-- The composed character that stands for a pair, unless it is a syllable of Hangul. -/
def joinPair? (first second : Char) : Option Char :=
  (pairTable.runs.find? fun run => run.2 == (first, second)).map fun run => Char.ofNat run.1

end Text

end EventFlow
