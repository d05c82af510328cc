import Rollout.Text.CharSet

/-!
# Rollout.Text.Composite — characters that stand for several

* `Text.composites`: characters that stand for two and are preferred to them.
* `Text.equivalents`: characters that stand for others and are not preferred to them.
* `Text.combiningClasses`: the class of a mark; marks of different classes change places freely.
-/

namespace Rollout.Text

/-- Characters preferred to the two they stand for. -/
def composites : CharMap := .ofText "5c=1t,lc 0=1t,ld 0=1t,le 0=1t,lf 0=1t,lk 0=1t,lm 1=1v,mf 0=1x,lc 0=1x,ld 0=1x,le 0=1x,lk 0=21,lc 0=21,ld 0=21,le
   0=21,lk 1=26,lf 0=27,lc 0=27,ld 0=27,le 0=27,lf 0=27,lk 2=2d,lc 0=2d,ld 0=2d,le 0=2d,lk 0=2h,ld 2=2p,lc 0=2p,ld
   0=2p,le 0=2p,lf 0=2p,lk 0=2p,lm 1=2r,mf 0=2t,lc 0=2t,ld 0=2t,le 0=2t,lk 0=2x,lc 0=2x,ld 0=2x,le 0=2x,lk 1=32,lf
   0=33,lc 0=33,ld 0=33,le 0=33,lf 0=33,lk 2=39,lc 0=39,ld 0=39,le 0=39,lk 0=3d,ld 1=3d,lk 0=1t,lg 0=2p,lg 0=1t,li
   0=2p,li 0=1t,mg 0=2p,mg 0=1v,ld 0=2r,ld 0=1v,le 0=2r,le 0=1v,lj 0=2r,lj 0=1v,lo 0=2r,lo 0=1w,lo 0=2s,lo 2=1x,lg
   0=2t,lg 0=1x,li 0=2t,li 0=1x,lj 0=2t,lj 0=1x,mg 0=2t,mg 0=1x,lo 0=2t,lo 0=1z,le 0=2v,le 0=1z,li 0=2v,li 0=1z,lj
   0=2v,lj 0=1z,mf 0=2v,mf 0=20,le 0=2w,le 2=21,lf 0=2x,lf 0=21,lg 0=2x,lg 0=21,li 0=2x,li 0=21,mg 0=2x,mg 0=21,lj
   3=22,le 0=2y,le 0=23,mf 0=2z,mf 1=24,ld 0=30,ld 0=24,mf 0=30,mf 0=24,lo 0=30,lo 4=26,ld 0=32,ld 0=26,mf 0=32,mf
   0=26,lo 0=32,lo 3=27,lg 0=33,lg 0=27,li 0=33,li 0=27,ln 0=33,ln 2=2a,ld 0=36,ld 0=2a,mf 0=36,mf 0=2a,lo 0=36,lo
   0=2b,ld 0=37,ld 0=2b,le 0=37,le 0=2b,mf 0=37,mf 0=2b,lo 0=37,lo 0=2c,mf 0=38,mf 0=2c,lo 0=38,lo 2=2d,lf 0=39,lf
   0=2d,lg 0=39,lg 0=2d,li 0=39,li 0=2d,lm 0=39,lm 0=2d,ln 0=39,ln 0=2d,mg 0=39,mg 0=2f,le 0=3b,le 0=2h,le 0=3d,le
   0=2h,lk 0=2i,ld 0=3e,ld 0=2i,lj 0=3e,lj 0=2i,lo 0=3e,lo x=27,m3 0=33,m3 d=2d,m3 0=39,m3 s=1t,lo 0=2p,lo 0=21,lo
   0=2x,lo 0=27,lo 0=33,lo 0=2d,lo 0=39,lo 0=64,lg 0=70,lg 0=64,ld 0=70,ld 0=64,lo 0=70,lo 0=64,lc 0=70,lc 1=5g,lg
   0=6c,lg 0=fa,lg 0=fb,lg 0=5i,lg 0=6e,lg 2=1z,lo 0=2v,lo 0=23,lo 0=2z,lo 0=27,mg 0=33,mg 0=dm,lg 0=dn,lg 0=c7,lo
   0=ia,lo 0=2y,lo 3=1z,ld 0=2v,ld 2=26,lc 0=32,lc 0=5h,ld 0=6d,ld 0=5i,ld 0=6e,ld 0=60,ld 0=6w,ld 0=1t,lr 0=2p,lr
   0=1t,lt 0=2p,lt 0=1x,lr 0=2t,lr 0=1x,lt 0=2t,lt 0=21,lr 0=2x,lr 0=21,lt 0=2x,lt 0=27,lr 0=33,lr 0=27,lt 0=33,lt
   0=2a,lr 0=36,lr 0=2a,lt 0=36,lt 0=2d,lr 0=39,lr 0=2d,lt 0=39,lt 0=2b,me 0=37,me 0=2c,me 0=38,me 2=20,lo 0=2w,lo
   6=1t,lj 0=2p,lj 0=1x,mf 0=2t,mf 0=5y,lg 0=6u,lg 0=5x,lg 0=6t,lg 0=27,lj 0=33,lj 0=fi,lg 0=fj,lg 0=2h,lg 0=3d,lg
   9d=4o,ld 0=pd,ld 1=ph,ld 0=pj,ld 0=pl,ld 1=pr,ld 1=px,ld 0=q1,ld 0=qy,ld p=pl,lk 0=px,lk 0=q9,ld 0=qd,ld 0=qf,ld
   0=qh,ld 0=qz,ld p=qh,lk 0=qt,lk 0=qn,ld 0=qt,ld 0=qx,ld 4=r6,ld 0=r6,lk 17=t1,lc 0=t1,lk 1=sz,ld 3=sm,lk 4=t6,ld
   0=t4,lc 0=tf,li a=t4,li v=u0,li m=tx,lc 0=tx,lk 1=tv,ld 3=uu,lk 4=u2,ld 0=u0,lc 0=ub,li n=vo,lr 0=vp,lr 21=t2,li
   0=ty,li d=sw,li 0=ts,li 0=sw,lk 0=ts,lk 2=t1,li 0=tx,li 2=yg,lk 0=yh,lk 0=t2,lk 0=ty,lk 0=t3,lk 0=tz,lk 2=t4,lg
   0=u0,lg 0=t4,lk 0=u0,lk 0=ta,lk 0=u6,lk 2=yw,lk 0=yx,lk 0=tp,lk 0=ul,lk 0=tf,lg 0=ub,lg 0=tf,lk 0=ub,lk 0=tf,ln
   0=ub,ln 0=tj,lk 0=uf,lk 2=tn,lk 0=uj,lk 88=17r,18z 0=17r,190 0=18o,190 0=17r,191 0=18q,190 49=1cl,190 1=1c1,190
   g=1ci,190 gl=1t4,1to 7=1tc,1to 2=1tf,1to 46=1xj,1xa 0=1xj,1xz aj=287,28m 2=287,27y 0=287,28n 1z=2aa,2c7
   1h=2bq,2bi 0=2br,2bi 0=2bq,2c7 3f=2fa,2fq 3b=2in,2j9 6=2iu,2j9 0=2iu,2ja 1=2iu,2iq 0=2iy,2j9 3i=2me,2m6
   0=2mf,2m6 0=2me,2mv 3x=2qh,2q2 1=2qh,2q7 0=2qk,2q2 0=2qh,2qn g7=36t,372 25b=5c5,5dh 1=5c7,5dh 1=5c9,5dh
   1=5cb,5dh 1=5cd,5dh 3=5ch,5dh 14=5dm,5dh 1=5do,5dh 2=5dq,5dh 0=5dr,5dh 1=5du,5dh jg=1t,md 0=2p,md 0=1u,lj
   0=2q,lj 0=1u,mb 0=2q,mb 0=1u,mp 0=2q,mp 0=5j,ld 0=6f,ld 0=1w,lj 0=2s,lj 0=1w,mb 0=2s,mb 0=1w,mp 0=2s,mp 0=1w,mf
   0=2s,mf 0=1w,ml 0=2s,ml 0=7m,lc 0=7n,lc 0=7m,ld 0=7n,ld 0=1x,ml 0=2t,ml 0=1x,mo 0=2t,mo 0=fc,li 0=fd,li 0=1y,lj
   0=2u,lj 0=1z,lg 0=2v,lg 0=20,lj 0=2w,lj 0=20,mb 0=2w,mb 0=20,lk 0=2w,lk 0=20,mf 0=2w,mf 0=20,mm 0=2w,mm 0=21,mo
   0=2x,mo 0=5r,ld 0=6n,ld 0=23,ld 0=2z,ld 0=23,mb 0=2z,mb 0=23,mp 0=2z,mp 0=24,mb 0=30,mb 0=5yu,lg 0=5yv,lg
   0=24,mp 0=30,mp 0=24,ml 0=30,ml 0=25,ld 0=31,ld 0=25,lj 0=31,lj 0=25,mb 0=31,mb 0=26,lj 0=32,lj 0=26,mb 0=32,mb
   0=26,mp 0=32,mp 0=26,ml 0=32,ml 0=5x,ld 0=6t,ld 0=5x,lk 0=6t,lk 0=98,lc 0=99,lc 0=98,ld 0=99,ld 0=28,ld 0=34,ld
   0=28,lj 0=34,lj 0=2a,lj 0=36,lj 0=2a,mb 0=36,mb 0=5zu,lg 0=5zv,lg 0=2a,mp 0=36,mp 0=2b,lj 0=37,lj 0=2b,mb
   0=37,mb 0=9m,lj 0=9n,lj 0=9s,lj 0=9t,lj 0=602,lj 0=603,lj 0=2c,lj 0=38,lj 0=2c,mb 0=38,mb 0=2c,mp 0=38,mp
   0=2c,ml 0=38,ml 0=2d,mc 0=39,mc 0=2d,mo 0=39,mo 0=2d,ml 0=39,ml 0=a0,ld 0=a1,ld 0=a2,lk 0=a3,lk 0=2e,lf 0=3a,lf
   0=2e,mb 0=3a,mb 0=2f,lc 0=3b,lc 0=2f,ld 0=3b,ld 0=2f,lk 0=3b,lk 0=2f,lj 0=3b,lj 0=2f,mb 0=3b,mb 0=2g,lj 0=3c,lj
   0=2g,lk 0=3c,lk 0=2h,lj 0=3d,lj 0=2i,le 0=3e,le 0=2i,mb 0=3e,mb 0=2i,mp 0=3e,mp 0=2w,mp 0=38,lk 0=3b,lm 0=3d,lm
   1=an,lj 4=1t,mb 0=2p,mb 0=1t,ll 0=2p,ll 0=5e,ld 0=6a,ld 0=5e,lc 0=6a,lc 0=5e,ll 0=6a,ll 0=5e,lf 0=6a,lf 0=61s,le
   0=61t,le 0=76,ld 0=77,ld 0=76,lc 0=77,lc 0=76,ll 0=77,ll 0=76,lf 0=77,lf 0=61s,li 0=61t,li 0=1x,mb 0=2t,mb
   0=1x,ll 0=2t,ll 0=1x,lf 0=2t,lf 0=5m,ld 0=6i,ld 0=5m,lc 0=6i,lc 0=5m,ll 0=6i,ll 0=5m,lf 0=6i,lf 0=62g,le
   0=62h,le 0=21,ll 0=2x,ll 0=21,mb 0=2x,mb 0=27,mb 0=33,mb 0=27,ll 0=33,ll 0=5w,ld 0=6s,ld 0=5w,lc 0=6s,lc 0=5w,ll
   0=6s,ll 0=5w,lf 0=6s,lf 0=630,le 0=631,le 0=bk,ld 0=bl,ld 0=bk,lc 0=bl,lc 0=bk,ll 0=bl,ll 0=bk,lf 0=bl,lf
   0=bk,mb 0=bl,mb 0=2d,mb 0=39,mb 0=2d,ll 0=39,ll 0=bz,ld 0=c0,ld 0=bz,lc 0=c0,lc 0=bz,ll 0=c0,ll 0=bz,lf 0=c0,lf
   0=bz,mb 0=c0,mb 0=2h,lc 0=3d,lc 0=2h,mb 0=3d,mb 0=2h,ll 0=3d,ll 0=2h,lf 0=3d,lf 6=q9,lv 0=q9,lw 0=64g,lc
   0=64h,lc 0=64g,ld 0=64h,ld 0=64g,n6 0=64h,n6 0=pd,lv 0=pd,lw 0=64o,lc 0=64p,lc 0=64o,ld 0=64p,ld 0=64o,n6
   0=64p,n6 0=qd,lv 0=qd,lw 0=64w,lc 0=64x,lc 0=64w,ld 0=64x,ld 2=ph,lv 0=ph,lw 0=654,lc 0=655,lc 0=654,ld 0=655,ld
   2=qf,lv 0=qf,lw 0=65c,lc 0=65d,lc 0=65c,ld 0=65d,ld 0=65c,n6 0=65d,n6 0=pj,lv 0=pj,lw 0=65k,lc 0=65l,lc 0=65k,ld
   0=65l,ld 0=65k,n6 0=65l,n6 0=qh,lv 0=qh,lw 0=65s,lc 0=65t,lc 0=65s,ld 0=65t,ld 0=65s,n6 0=65t,n6 0=pl,lv 0=pl,lw
   0=660,lc 0=661,lc 0=660,ld 0=661,ld 0=660,n6 0=661,n6 0=qn,lv 0=qn,lw 0=668,lc 0=669,lc 0=668,ld 0=669,ld
   2=pr,lv 0=pr,lw 0=66g,lc 0=66h,lc 0=66g,ld 0=66h,ld 2=qt,lv 0=qt,lw 0=66o,lc 0=66p,lc 0=66o,ld 0=66p,ld 0=66o,n6
   0=66p,n6 1=px,lw 1=66x,lc 1=66x,ld 1=66x,n6 0=qx,lv 0=qx,lw 0=674,lc 0=675,lc 0=674,ld 0=675,ld 0=674,n6
   0=675,n6 0=q1,lv 0=q1,lw 0=67c,lc 0=67d,lc 0=67c,ld 0=67d,ld 0=67c,n6 0=67d,n6 0=q9,lc 1=qd,lc 1=qf,lc 1=qh,lc
   1=qn,lc 1=qt,lc 1=qx,lc 3=64g,n9 0=64h,n9 0=64i,n9 0=64j,n9 0=64k,n9 0=64l,n9 0=64m,n9 0=64n,n9 0=64o,n9
   0=64p,n9 0=64q,n9 0=64r,n9 0=64s,n9 0=64t,n9 0=64u,n9 0=64v,n9 0=65c,n9 0=65d,n9 0=65e,n9 0=65f,n9 0=65g,n9
   0=65h,n9 0=65i,n9 0=65j,n9 0=65k,n9 0=65l,n9 0=65m,n9 0=65n,n9 0=65o,n9 0=65p,n9 0=65q,n9 0=65r,n9 0=674,n9
   0=675,n9 0=676,n9 0=677,n9 0=678,n9 0=679,n9 0=67a,n9 0=67b,n9 0=67c,n9 0=67d,n9 0=67e,n9 0=67f,n9 0=67g,n9
   0=67h,n9 0=67i,n9 0=67j,n9 0=q9,li 0=q9,lg 0=67k,n9 0=q9,n9 0=q4,n9 1=q9,n6 0=69i,n9 0=pd,li 0=pd,lg 0=pd,lc
   1=pd,n9 4=4o,n6 0=67o,n9 0=qf,n9 0=q6,n9 1=qf,n6 0=69y,n9 0=ph,lc 1=pj,lc 1=pj,n9 0=69r,lc 0=69r,ld 0=69r,n6
   0=qh,li 0=qh,lg 0=qy,lc 3=qh,n6 0=qy,n6 0=pl,li 0=pl,lg 0=pl,lc 2=6bi,lc 0=6bi,ld 0=6bi,n6 0=qt,li 0=qt,lg
   0=qz,lc 1=qp,lv 0=qp,lw 0=qt,n6 0=qz,n6 0=px,li 0=px,lg 0=px,lc 1=pt,lw 0=4o,lc 4=67w,n9 0=qx,n9 0=r2,n9 1=qx,n6
   0=6ba,n9 0=pr,lc 1=q1,lc 1=q1,n9 bh=6mo,mw 0=6mq,mw i=6ms,mw u=6og,mw 0=6ok,mw 0=6oi,mw 1g=6pv,mw 4=6q0,mw
   2=6q3,mw n=6qr,mw 1=6qt,mw q=6rg,mw 2=6rn,mw 2=6rp,mw 1=6rs,mw m=1p,mw 1=6sh,mw a=6rx,mw 0=1o,mw 0=1q,mw
   0=6sk,mw 0=6sl,mw 2=6sy,mw 0=6sz,mw 2=6t2,mw 0=6t3,mw 6=6t6,mw 0=6t7,mw 2=6te,mw 0=6tf,mw 2=6ti,mw 0=6tj,mw
   y=6ua,mw 0=6ug,mw 0=6uh,mw 0=6uj,mw 1c=6t8,mw 0=6t9,mw 0=6tt,mw 0=6tu,mw 6=6uq,mw 0=6ur,mw 0=6us,mw 0=6ut,mw
   2n2=9jf,9ll 1=9jh,9ll 1=9jj,9ll 1=9jl,9ll 1=9jn,9ll 1=9jp,9ll 1=9jr,9ll 1=9jt,9ll 1=9jv,9ll 1=9jx,9ll 1=9jz,9ll
   1=9k1,9ll 2=9k4,9ll 1=9k6,9ll 1=9k8,9ll 6=9kf,9ll 0=9kf,9lm 1=9ki,9ll 0=9ki,9lm 1=9kl,9ll 0=9kl,9lm 1=9ko,9ll
   0=9ko,9lm 1=9kr,9ll 0=9kr,9lm m=9ja,9ll 9=9lp,9ll d=9m3,9ll 1=9m5,9ll 1=9m7,9ll 1=9m9,9ll 1=9mb,9ll 1=9md,9ll
   1=9mf,9ll 1=9mh,9ll 1=9mj,9ll 1=9ml,9ll 1=9mn,9ll 1=9mp,9ll 2=9ms,9ll 1=9mu,9ll 1=9mw,9ll 6=9n3,9ll 0=9n3,9lm
   1=9n6,9ll 0=9n6,9lm 1=9n9,9ll 0=9n9,9lm 1=9nc,9ll 0=9nc,9lm 1=9nf,9ll 0=9nf,9lm m=9ly,9ll 2=9nz,9ll 0=9o0,9ll
   0=9o1,9ll 0=9o2,9ll 3=9od,9ll 1616=1fpu,lj q=1fq2,lj 245=1huh,1hve 1=1huj,1hve e=1hut,1hve 3m=1hyp,1hyf
   0=1hyq,1hyf ez=1idj,1ida 0=1idj,1idz 1i=1if6,1ih5 1=1if8,1igr 8=1iff,1igy 2=1ifk,1ih5 1f=1igy,1igy 1=1igy,1igo
   0=1igy,1ih5 6q=1int,1inu 0=1int,1ink 1=1int,1inx 6z=1iuw,1iun 0=1iux,1iun os=1jjp,1jjk e7c=1xr2,1xr2 0=1xr2,1xrd
   0=1xr2,1xr3 0=1xrd,1xr3 0=1xr2,1xr4 0=1xr5,1xr3 0=1xr6,1xr3 0=1xr5,1xr4 2f3=206f,206f 0=206b,206f 0=206h,206f"

/-- Characters that others are preferred to. -/
def equivalents : CharMap := .ofText "n4-1=lc 1=lv 0=lk,ld 1b=jd 9=1n 8=53 15c=1sl,1to 0=1sm,1to 0=1sn,1to 0=1ss,1to 0=1sx,1to 0=1sy,1to 0=1t7,1to
   0=1tb,1to 3g=1wh,1x8 0=1wi,1x8 1=1wv,1x8 2b=20i,20s 2=20o,20s y=1zq,20s 0=1zr,20s 0=1zw,20s 2=20b,20s 71=275,27w
   0=276,27w rp=30i,33r 9=30s,33r 4=30x,33r 4=312,33r 4=317,33r c=30g,33p 9=31t,31u 1=31t,31w 0=33m,328 1=33n,328
   8=31t,328 h=32q,33r 9=330,33r 4=335,33r 4=33a,33r 4=33f,33r c=32o,33p 33r=q9,ld 1=qd,ld 1=qf,ld 1=qh,ld 1=qn,ld
   1=qt,ld 1=qx,ld 1p=pd,ld 2=qh a=ph,ld 1=pj,ld 7=qh,lk,ld 7=pl,ld 7=qt,lk,ld 7=px,ld 2=4o,ld 0=2o 9=pr,ld 1=q1,ld
   1=50 2-1=6bm 84=q1 3=23 0=1t,lm e5-1=9hk 1ip=8gt,mw 14pv=rpk 0=kc4 0=s7e 0=rt4 0=lw1 0=fg2 0=gkl 0*1=vj0 0=hn5
   0=ssx 0=gw7 0=hmw 0=jcm 0=ne1 0=p6t 0=qin 0=qt6 0=r20 0=sjz 0=kxu 0=ljv 0=mah 0=mvy 0=q4d 0=sq2 0=uep 0=fia
   0=ghh 0=l50 0=mjf 0=qi5 0=v8e 0=ifk 0=m3v 0=qfh 0=r50 0=jih 0=pnc 0=qvz 0=iq2 0=kd3 0=lm2 0=mpo 0=slq 0=fpi
   0=g53 0=gda 0=jwk 0=l3n 0=mj4 0=nhj 0=pa9 0=qh2 0=qjg 0=s1b 0=tv6 0=upb 0=v7e 0=nt8 0=nzz 0=otc 0=q15 0=t1g
   0=vb3 0=rfa 0=hjz 0=iro 0=okg 0=pdq 0=mle 0=nuy 0=rsy 0=ttj 0=hjs 0=i8y 0=kyb 0=lp6 0=lxr 0=oq7 0=oxj 0=tor
   0=gcy 0=pe3 0=g64 0=g5o 0=o4c 0=ou6 0=q29 0=tpx 0=rk0 0=jin 0=kxu 0=rge 0=fg9 0=i5j 0=iz6 0=mtj 0=n74 0=gev
   0=nwb 0=fr3 0=iw9 0=ff1 0=lho 0=k1k 0=opu 0=gjn 0=hge 0=ni9 0=q4p 0=re2 0=la2 0=sds 0=lfs 0=jjy 0=put 0=jog
   0=n6t 0=fji 0=g2x 0=g5l 0=kn5 0=oo7 0=prj 0=rf6 0=ssv 0=gdx 0=gn6 0=ho3 0=ir0 0=k3p 0=m4e 0=nxm 0=tkd 0=ui2
   0=vbr 0=vda 0=gbf 0=kau 0=l87 0=sbm 0=ino 0=j9s 0=jcw 0=jve 0=lyb 0=mdl 0=n0p 0=o22 0=ovo 0=pdb 0=s9y 0=q9a
   0=sgz 0=t3e 0=g7r 0=gbn 0=gql 0=ma0 0=r0i 0=re2 0=iq1 0=iyd 0=jnf 0=l9q 0=oji 0=mt1 0=fl0 0=h6h 0=i5j 0=iii
   0=izg 0=muq 0=mzt 0=p7e 0=pc6 0=svo 0=tti 0=tvs 0=u1k 0=fpn 0=o1a 0=ss4 0=trs 0=j4x 0=fie 0=fyy 0=i5q 0=i7z
   0=k2h 0=kxu 0=mha 0=ncy 0=q9o 0=sjg 0=vil 0=k94 0=tny 0=gax 0=kfv 0=kj7 0=lkx 0=luk 0=mx5 0=n6h 0=nsb 0=opc
   0=u3i 0=g31 0=je6 0=tq0 0=fu3 0=ie1 0=lpm 0=sa2 0=ivf 0=j7o 0=kk7 0=mtj 0=tqe 0=g89 0=glr 0=i91 0=k5v 0=kem
   0=ko8 0=lid 0=mx2 0=naa 0=p6h 0=r0v 0=r1d 0=sss 0=tsy 0=gfz 0=lve 0=gm5 0=mhc 0=n14 0=qgq 0=tr7 0=uvr 0=vbz
   0=kgn 0=lor 0=pns 0=o97 0=obk 0=olu 0=mo0 0=m8p 0=riw 0=fk0 0=px2 0=g8q 0=g7b 0=ip2 0=jir 0=onq 0=i2t 0=ljy
   0=kac 0=saj 0=qx8 0=tot 0=r63 0=iqb 0=g1s 0=gxs 2=hga 1=k8k 2=g66 0=mqy 0=ngq 0=ny4 0=nz2 0=nz9 0=o0f 0=tw6
   0=on2 0=p8d 1=qhe 1=rg8 2=shk 0=sn1 3=u7j 0=u7w 0=u94 0=v5g 0=sm6 0=trr 0=fqm 0=fzb 0=g25 0=gcp 0=gdg 0=ggh
   0=gwt 0=gzq 0=h2g 0=hfk 0=hig 0=i90 0=i9a 0=j2s 0=j8o 0=j9q 0=jci 0=k0f 0=k4i 0=k9d 0=kn9 0=lmf 0=lqy 0=lya
   0=mem 0=mjv 0=mxu 0=ntd 0=ny6 0=nyh 0=nyg 0=nyo 0=nyu 0=nz1 0-1=o0d 0=o5c 0=o75 0=og0 0=ovo 0=ow9 0=oxt 0=p6a
   0=pad 0=pnx 0*1=prt 0=q53 0=r2o 0=r6e 0=rgh 0=ri1 0=rtf 0=ruw 0=sdy 0=shk 0=tsz 0=u0v 0=u2j 0=j1x 0=36cu 0=pp4
   2=ffq 0=g51 0=g2w 0=fpc 0=g1x 0=g3k 0=gcn 0=ge2 0=gwt 0=gut 0=gwp 0=gyq 0=hga 0=hir 0=hms 0=hn8 0=huq 0=i08
   0=iqa 0=iqh 0=iuh 0=iwd 0=j4o 0=j7y 0=j60 0=j9q 0=j8g 0=jci 0=jec 0=jpg 0=jrw 0=jte 0=k0m 0=k8k 0=kd3 0=kd7
   0=keu 0=l89 0=la2 0=lkx 0=lwb 0=lvv 0=lya 0=m5a 0=mem 0=nmv 0=mk5 0=mnj 0=mqy 0=n01 0=n46 0=n5n 0=nbx 0=nbz
   0=ngq 0=nh7 0=nhw 0=nka 0=nk0 0=nv0 0=o8h 0=og0 0=ol7 0=orf 0=ovo 0=p4u 0=pad 0=pxu 0=q27 0=qrd 0=r41 0=r5y
   0=r6e 0=ren 0=rg8 0=rez 0=rgh 0=rge 0=rfx 0=ri1 0=rka 0=ruw 0=sag 0=sj6 0=srd 0=sxi 0=tq4 0=tsz 0=tw6 0=tzv
   0=u0v 0=u17 0=u2j 0=umq 0=vj0 0=313e 0=3138 0=33dh 0=brx 0=cns 0=cop 0=39e1 0=3bgw 0=3i6r 0=vgj 0=vim 1v=15l,14k
   1=16a,14n a=161,14x 0=161,14y 0=161,14s,14x 0=161,14s,14y 0=15c,14n 0=15c,14o 0=15c,14s 0=15d,14s 0=15e,14s
   0=15f,14s 0=15g,14s 0=15h,14s 0=15i,14s 1=15k,14s 0=15l,14s 0=15m,14s 0=15n,14s 0=15o,14s 1=15q,14s 1=15s,14s
   0=15t,14s 1=15v,14s 0=15w,14s 1=15y,14s 0=15z,14s 0=160,14s 0=161,14s 0=162,14s 0=15h,14p 0=15d,14v 0=15n,14v
   0=15w,14v 16a7=2jx3,2jxh 0=2jx4,2jxh 0=2jx4,2jxh,2jxq 0=2jx4,2jxh,2jxr 0=2jx4,2jxh,2jxs 0=2jx4,2jxh,2jxt
   0=2jx4,2jxh,2jxu 2e=2jzt,2jxh 0=2jzu,2jxh 0=2jzt,2jxh,2jxq 0=2jzu,2jxh,2jxq 0=2jzt,2jxh,2jxr 0=2jzu,2jxh,2jxr
   1m4f=fgd 0=fg8 0=fgh 0=2tcy 0=fog 0=fqm 0=fqz 0=fsy 0=fwa 0=fx5 0=fzb 0=fyn 0=ae6 0=2ud6 0=g25 0=g2c 0=g2s 0=g3b
   0=2u58 0=aex 0=g2v 0=g3x 0=2u6j 0=g47 0=g4k 0=fkc 0=g4s 0=g51 0=3ly7 0=g6t 0=g77 0=afz 0=g8r 0=g92 0=gaa 0=gaf
   0=ahh 0=gcn 0=gcp 0=gdg 0=ge2 0-1=ged 0=gev 0=gg9 0=ggh 0=ggq 0=ghf 0=ghp 0*2=ghr 0=2v58 0=m7k 0=gju 0=gkf
   0=2vdv 0=gkr 0=gkx 0=gli 0=gpq 0=gmw 0=gnc 0=go8 0=gpu 0=gs6 0=gsw 0=gur 0=gv7 0*1=gw4 0=gwp 0=gx7 0=gxf 0=gxu
   0=h7a 0=gzq 0=h7b 0=h1t 0=h2s 0=g7b 0=hke 0=hce 0=hdg 0=he5 0=haj 0=hf6 0=hf5 0=hik 0=2x9g 0=hki 0=hkn 0=hl2
   0=hlm 0=hlu 0=hnm 0=2xm0 0=2xnu 0=hrg 0=hsr 0=ht3 0=hqw 0=huu 0=aum 0=av0 0=hzc 0*1=i0u 0=2y88 0=i4j 0=i54 0=i5j
   0=i5v 0=2yhk 0=i67 0=i6e 0=itv 0=i76 0=ayp 0=i8w 0=i9a 0=ibk 0=ia5 0=2z1g 0=if7 0=2z1i 0=ige 0=igb 0=igs 0-1=ijl
   0=b3j 0=ikd 0=ilk 0=im5 0=ind 0=b4y 0=2zr7 0=b5o 0=ipc 0=ipf 0=ipi 0=iq2 0=3pg2 0=iri 0*1=3035 0=poh 0*1=isi
   0=b7r 0=335k 0=3cgq 0=iua 0=iuj 0=b8j 0=ivu 0=ix9 0=ixj 0=iyh 0=j29 0=bay 0=ba4 0=j2s 0=30t0 0=j47 0=j7s 0=j7w
   0=j7y 0=j7w 0=j96 0=j9q 0=jaq 0=jac 0=jan 0=jby 0=jci 0=jcm 0=jdc 0=jdn 0=jfh 0=jht 0=jis 0=jm8 0=31n0 0=jlp
   0=jjw 0=jmw 0=jnn 0=jqc 0=31td 0=js2 0=jph 0=jop 0=bhq 0=ju1 0=jum 0=jvh 0=juf 0=bjg 0=k0f 0=k18 0=32mi 0=k4j
   0=kc8 0=k7d 0=bo9 0=k9d 0=bns 0=bms 0=g42 0=g45 0=kcg 0=k9o 0=pf1 0=deh 0=kd3 0=kd7 0=kdd 0=kf2 0=ker 0=33cz
   0=bpl 0=kje 0=kg5 0=klu 0=kn9 0=33hp 0=kni 0=kkf 0=kr8 0=brx 0=ksi 0=kv7 0=kx6 0=l2g 0=33xf 0=l3v 0=bvc 0=l5t
   0=34br 0=l78 0=bwu 0=l82 0=l9b 0-1=la2 0=34p9 0=2yvf 0=34sa 0=le6 0=354s 0=lhb 0=lhp 0=lev 0=ljq 0=lku 0=lmf
   0=lkx 0=lm1 0=lmg 0=lmt 0=357i 0=lkk 0=lrj 0=lta 0=c37 0=lvv 0=lvr 0=35jl 0=lq1 0=m0e 0=35ni 0=35ou 0=m2u 0=m61
   0=m5a 0=m57 0=c5y 0=m6i 0=m7x 0=m7r 0=m99 0=2u5h 0=mdh 0=368z 0=mfw 0=36i3 0=mjs 0=mk5 0=mkw 0=36yw 0=mm8 0=mmt
   0=3779 0=37dg 0=mt6 0=mtn 0=cdo 0=mud 0*1=ce0 0=myv 0=mzg 0=n01 0=n0l 0=n2i 0=cgr 0=n50 0=386u 0=n5q 0=389e
   0=n74 0=2zrz 0=nbk 0=38v5 0=38vs 0=38zo 0=cn0 0=cnc 0=nhw 0=394j 0=394i 0=395l 0=396b 0-1=nj2 0=nj3 0=nka 0=cop
   0=nm3 0=cp2 0=cra 0=39r1 0=nri 0=nt8 0=nv0 0=ctf 0=3a5i 0=nyu 0=3a8q 0=3a9x 0=o0f 0=o2z 0=cvj 0=o5c 0=o5m 0=o5r
   0=3at8 0*1=3b1j 0=oa6 0=d1e 0=3b8r 0=og6 0=og9 0=d2f 0=3beo 0=onm 0=d5s 0=oo8 0=oo3 0=oow 0=3c06 0=orn 0=d8h
   0=ouf 0=ow2 0=oxx 0=d9w 0=3ciw 0=3cjr 0=dax 0=3cnt 0=p6i 0=3cqm 0=p79 0=pa2 0=pad 0=3d22 0=3d43 0=pcw 0=3d7s
   0=pdc 0=33a7 0=ded 0=pf6 0=phf 0=dfv 0=pj2 0=hx1 0=3dlz 0=3dmd 0=33bn 0=33bw 0=poh 0=pok 0=sda 0=dij 0=psh 0=psb
   0=pst 0=gc3 0=ptd 0=ptf 0=ptp 0=puu 0=3ebg 0=put 0=pwd 0=pyb 0=q0d 0=pwj 0=q0t 0=q1z 0=q53 0=pxv 0=q16 0=q18
   0=q1o 0=3eie 0=3eqz 0=3emt 0=dnv 0=q9d 0=q9f 0=qae 0=3g0a 0=qck 0=3f3g 0=dp9 0=dpd 0=3f75 0=3ff6 0=dpn 0=qj4
   0=qjg 0=qjr 0=qjt 0=qll 0=qko 0=qoe 0=qn6 0=qrd 0=qp4 0=qqz 0=qrq 0=dsn 0=qu9 0=qv5 0=dtl 0=qxs 0=qxv 0=3giv
   0=r13 0=r1a 0=dv9 0=r22 0=aez 0=3gz2 0=3h46 0=dz2 0=dzb 0=rds 0=rfx 0=rka 0=rpx 0=3hrc 0=rsb 0=rsx 0=rvf 0=rxz
   0=3i9b 0=2upw 0=s0b 0=rzw 0=s1c 0=2uvy 0=s7o 0=sag 0=3jki 0=3jl9 0=sk4 0=smp 0=snl 0=3ju6 0=snv 0=svs 0-1=t07
   0=sxo 0=t89 0=t91 0=3ksa 0=tjf 0=ej9 0=tkn 0=3l2v 0=eli 0=ts3 0=iia 0=tur 0=3ltx 0=3lzu 0=epa 0=epi 0=u00 0=3mdm
   0=er6 0=3mhi 0*1=u17 0=u21 0=3mpi 0=u76 0=eur 0=u95 0=ucn 0=ude 0=uf2 0=ez2 0=3nsg 0=umq 0=uv4 0=v0d 0=f66 0=f71
   0=v3b 0=3owe 0=f7c 0=3oxx 0=3p5a 0=3p8x 0=vcr 0=f9y 0=veh 0=vem 0=vet 0=vf3 0=vfa 0=vgb 0=3pxc"

/-- The classes of marks other than zero. -/
def combiningClasses : CharMap := .ofText "lc*k=6e 0=6g 0*3=64 0=6g 0=60 0*4=64 0*1=5m 0*3=64 0*1=5m 0*a=64 0*4=1 0*3=64 0*7=6e 0=6o 0=6e 0*2=64 0*2=6e
   0*1=64 1*2=6e 0*3=64 0=6e 0=6g 0*1=64 0=6e 0-1=6h 0=6i 0-1=6h 0=6i 0=6h 0*c=6e 7n*4=6e 7d=64 0*3=6e 0=64 0*2=6e
   0=66 0=64 0*5=6e 0*5=64 0*1=6e 0=64 0*1=6e 0=66 0=6c 0=6e 0-9=a 0-3=j 1=n 1-1=o 1=6e 0=64 1=i 20*7=6e 0-2=u
   1c-7=r 0*1=6e 0*1=64 0*4=6e 0=64 0*1=6e 0=64 g=z 2t*6=6e 2*3=6e 0=64 0=6e 2*1=6e 1=64 0*1=6e 0=64 z=10 u=6e 0=64
   0*1=6e 0=64 0*1=6e 0*2=64 0=6e 0*1=64 0=6e 0=64 0*2=6e 0=64 0=6e 0=64 0=6e 0=64 0=6e 0=64 0*1=6e 4g*6=6e 0=64
   0=6e 9=64 o*3=6e 1*8=6e 1*2=6e 1*4=6e 17*2=64 1n*1=6e 0*2=64 0*3=6e 16*4=6e 0*4=64 0*d=6e 1=64 0*1=6e 0=64
   0*1=6e 0=64 0*2=6e 0*2=64 0-2=r 0*2=6e 0=64 0*1=6e 0*1=64 0*4=6e 1o=7 g=9 3=6e 0=64 0*1=6e 2v=7 g=9 1c=6e 1p=7
   g=9 32=7 g=9 32=7 g=9 3j=9 32=7 g=9 7=2c 0=2j 2t=7 g=9 31*1=9 g=9 3g=9 31*1=2v 0=9 d*3=2z 30*1=3a 0=9 d*3=3e
   24*1=64 r=64 1=64 1=60 1j-1=3l 1=3o 5*3=3m 2=3m 1*1=6e 0=9 1*1=6e 1q=64 34/1=7 0=9 2a=64 jz*2=6e qc*1=9 u=9 4d=9
   a=6e 5n=6c 3z=66 0=6e 0=64 63=6e 0=64 1z=9 k*7=6e 2=64 1c*4=6e 0*5=64 0*1=6e 0=64 1*1=64 0*1=6e 0*1=64 0*4=6e
   0=64 0*h=6e 0=64 2*5=6e 0=64 0*3=6e 0=6i 20=7 f=9 12=6e 0=64 0*6=6e 1i*1=9 1m=7 b*1=9 1v=7 48*2=6e 1=1 0*4=64
   0*1=6e 0*3=64 0=6e 1*6=1 4=64 6=6e 3*1=6e 5i*1=6e 0=64 0*6=6e 0=64 0*1=6e 0=6i 0=5y 0=64 0=5m 0*10=6e 0=6g
   0*1=6c 0=64 0=62 0=6e 0=6h 0=64 0=6e 0=64 k0*1=6e 0*1=1 0*3=6e 0*2=1 0*1=6e 4=6e 3*1=1 0=6e 0=64 0=6e 0*1=1
   0*3=64 0=6e 2da*2=6e 3x=9 2o*v=6e fe=62 0=6c 0=6g 0=66 0*1=68 2x*1=8 n9w=6e 4*9=6e w*1=6e 28*1=6e 7o=9 11=9 47=9
   r*h=6e 1l*2=64 11=9 2n=7 c=9 6n=6e 1*1=6e 0=64 2*1=6e 5*1=6e 1=6e 1g=9 6u=9 fn4=q ld*6=6e 0*6=64 0*1=6e r1=64
   6a=64 45*4=6e 1aq=64 1=6e 14=6e 0=1 0=64 4=9 4l=6e 0=64 fx*3=6e 1t*4=6e 8t*1=6e 25*1=64 1*2=64 1y*1=64 0*2=6e
   0=64 0=6e 0*3=64 1d=6e 0=64 0=6e 0=64 5c=9 15=9 e=9 1l=9 0=7 1x*2=6e 1c*1=9 1q=7 24=9 9=7 2y=9 0=7 4y=7 0=9
   28*1=7 g=9 o*6=6e 3*4=6e 2h*2=9 35=9 3=7 n=6e 2r=9 0=7 6z=9 0=7 3i=9 3a=9 0=7 37=9 7h=9 0=7 76*1=9 4=7 4c=9 2b=9
   i=9 29=9 bp=9 76/1=7 0=9 29=9 bt*1=9 d0s=9 1xc*4=1 1n*6=6e xl*1=6 f58=1 43q*1=60 0*2=1 3=6a 0*4=60 8*7=64 2*4=6e
   0*1=64 u*3=6e 44*2=6e 2pn*6=6e 1*g=6e 2*6=6e 1*1=6e 1*4=6e 2s=6e 4g*6=6e af=6e 1p*3=6e e4*1=6g 0=64 0=6e 72=6e
   0=64 6r=6e 2=6e 7*1=6e 5=6e d6*6=64 31*5=6e 0=7"

end Rollout.Text
